import SourceAudit.Ast.Basic
import SourceAudit.Syntax.Tree
import SourceAudit.Syntax.Dialect
import SourceAudit.Text.Blank
import SourceAudit.Text.Qualified
/-!
# From a syntax tree to the declaration model

The lowering reads a concrete syntax tree of a C or C++ file and keeps what the analyses need.

* **Declarations.** Function definitions and prototypes, records (classes, structs and unions),
  namespaces and everything else as `other`; linkage blocks, templates, `ERROR` nodes and
  preprocessor conditionals are transparent containers.
* **Records.** A record is pushed to the arena after its members, so a nested record has a
  smaller index than the record around it. A base names the record defined earlier under the
  same scoped key, searching the enclosing namespaces and classes from the innermost outward; a
  base that is a template parameter is a `nonRecord`, one that matches nothing `unresolved`.
* **Bodies.** Operators, calls, conditionals, locals, lambdas and local records become nodes;
  literals and comments vanish; every other node is replaced by its lowered children. A call is
  resolved to a name when its callee is spelled as a function name that is not a local, a
  parameter or a pointer-to-function member.

The names of bit-field members and of pointer-to-function members are gathered from the whole
tree first (`bitfieldCaptures`, `fnPointerCaptures`).

Main definitions:
* `OfTree.Facts`, `OfTree.Progress`, `OfTree.Lower`: what the lowering reads and builds.
* `OfTree.lowerTop`, `OfTree.lowerRecord`, `OfTree.lowerInto` and the rest of one recursive
  family, each with a fuel argument that the tree's size bounds.
* **`Outline.ofTree`**: the whole lowering.
-/

namespace SourceAudit

open Syntax Text

namespace OfTree

/-- The name given to a record or namespace written without one. -/
def anonymous : String := "(anonymous)"

/-- The position of a node as a one-based line and byte column. -/
def location (t : Tree) : Location := ⟨t.start.row + 1, t.start.column + 1⟩

/-- The source text of a node with every run of blanks made one space. -/
def spelled (src : ByteArray) (t : Tree) : String := collapseBlanks (t.text src)

/-- A class, struct or union specifier. -/
def isRecordSpecifier (t : Tree) : Bool :=
  t.kind == "class_specifier" || t.kind == "struct_specifier" || t.kind == "union_specifier"

/-- A record specifier with a body. -/
def isRecordDefinition (t : Tree) : Bool := isRecordSpecifier t && (t.field? "body").isSome

/-- A preprocessor conditional, whose items belong to the scope around it. -/
def isPreprocContainer (kind : String) : Bool :=
  ["preproc_if", "preproc_ifdef", "preproc_else", "preproc_elif", "preproc_elifdef"].contains kind

/-- The record keyword a specifier's kind stands for. -/
def tagOf (kind : String) : Tag :=
  match kind with
  | "class_specifier" => .cls
  | "union_specifier" => .union
  | _ => .struct

/-- The entries of a parameter list, the bare names of an old-style list included. -/
def parameters (ps : Tree) : List Tree :=
  ps.namedChildren.filter fun p =>
    ["parameter_declaration", "optional_parameter_declaration",
     "variadic_parameter_declaration", "identifier"].contains p.kind

/-- The function declarator a declarator chain ends in, when it declares a function; a pointer
to a function declares a variable and gives `none`. -/
def findFunctionDeclarator (t : Tree) : Option Tree :=
  match t.kind with
  | "function_declarator" =>
    match t.field? "declarator" with
    | some inner => if inner.kind == "parenthesized_declarator" then none else some t
    | none => none
  | "pointer_declarator" | "reference_declarator" | "attributed_declarator" =>
    match _h : t.field? "declarator" with
    | some inner => findFunctionDeclarator inner
    | none =>
      match _h' : t.namedChildren.getLast? with
      | some inner => findFunctionDeclarator inner
      | none => none
  | _ => none
termination_by sizeOf t
decreasing_by
  · exact Tree.sizeOf_field?_lt _h
  · exact Tree.sizeOf_getLast?_lt _h'

/-- The name a declarator chain introduces. -/
def declaratorName (src : ByteArray) (t : Tree) : Option String :=
  if ["identifier", "field_identifier", "type_identifier", "destructor_name", "operator_name",
      "qualified_identifier", "template_function", "structured_binding_declarator"].contains
      t.kind then
    some (spelled src t)
  else
    match _h : t.field? "declarator" with
    | some inner => declaratorName src inner
    | none =>
      match _h' : t.namedChildren.head? with
      | some inner => declaratorName src inner
      | none => none
termination_by sizeOf t
decreasing_by
  · exact Tree.sizeOf_field?_lt _h
  · exact Tree.sizeOf_head?_lt _h'

/-- A class name as written, template arguments dropped; a leading `::` is kept. -/
def classPath (src : ByteArray) (t : Tree) : String :=
  match t.kind with
  | "qualified_identifier" =>
    let scope := match _h : t.field? "scope" with
      | some s => classPath src s
      | none => ""
    let name := match _h' : t.field? "name" with
      | some s => classPath src s
      | none => ""
    scope ++ "::" ++ name
  | "template_type" =>
    match t.field? "name" with
    | some n => spelled src n
    | none => spelled src t
  | _ => spelled src t
termination_by sizeOf t
decreasing_by
  · exact Tree.sizeOf_field?_lt _h
  · exact Tree.sizeOf_field?_lt _h'

/-- A child marks the declaration virtual. -/
def hasVirtual (t : Tree) : Bool :=
  t.children.any fun c => c.kind == "virtual" || c.kind == "virtual_function_specifier"

/-- The declaration ends in `= default` or `= delete`. -/
def isDefaultedOrDeleted (t : Tree) : Bool :=
  t.children.any fun c => c.kind == "default_method_clause" || c.kind == "delete_method_clause"

/-- C++ always has a prototype; in C a list gives one unless it is empty (comments aside) or
holds a bare name. -/
def hasPrototype : Dialect → Option Tree → Bool
  | .cpp, _ => true
  | .c, none => false
  | .c, some ps =>
    let items := ps.namedChildren.filter (·.kind != "comment")
    !items.isEmpty && items.all (·.kind != "identifier")

/-- The number of parameters; the list `(void)` has none. -/
def paramCount (src : ByteArray) (ps : Tree) : Nat :=
  match parameters ps with
  | [only] =>
    if only.kind == "parameter_declaration" && (only.field? "declarator").isNone &&
        ((only.field? "type").map fun ty => ty.text src == "void").getD false then 0
    else 1
  | items => items.length

/-- The names of a function declarator's parameters. -/
def paramNames (src : ByteArray) (fd : Tree) : List String :=
  match fd.field? "parameters" with
  | none => []
  | some ps =>
    (parameters ps).filterMap fun p =>
      if p.kind == "identifier" then some (p.text src)
      else (p.field? "declarator").bind (declaratorName src)

/-- The type parameter names a template declaration introduces. -/
def templateParamNames (src : ByteArray) (t : Tree) : List String :=
  match t.namedChildren.find? (·.kind == "template_parameter_list") with
  | none => []
  | some list =>
    list.namedChildren.filterMap fun p =>
      let name := match p.field? "name" with
        | some n => some n
        | none => p.namedChildren.find? (·.kind == "type_identifier")
      name.map (·.text src)

/-- The operator of an expression, alternative spellings (`and`, `bitor`, `compl`) replaced by
their symbols. -/
def operatorSymbol (t : Tree) : String :=
  match ((t.field? "operator").map (·.kind)).getD "?" with
  | "and" => "&&"
  | "or" => "||"
  | "not" => "!"
  | "bitand" => "&"
  | "bitor" => "|"
  | "xor" => "^"
  | "compl" => "~"
  | other => other

/-- Names of bit-field members declared by one node: a field declaration's plain declarator
followed, later in the same declaration, by a bit-field width. -/
def bitfieldCaptures (src : ByteArray) (t : Tree) : List String :=
  if t.kind != "field_declaration" then [] else
  let rec go : List Tree → List String
    | [] => []
    | c :: rest =>
      (if c.field == some "declarator" && c.kind == "field_identifier" &&
          rest.any (·.kind == "bitfield_clause") then (c.text? src).toList else []) ++ go rest
  go t.children

/-- Names of pointer-to-function members declared by one node: `R (*name)(...)` in a field
declaration. -/
def fnPointerCaptures (src : ByteArray) (t : Tree) : List String :=
  if t.kind != "field_declaration" then [] else
  ((t.fieldAll "declarator").filter (·.kind == "function_declarator")).flatMap fun fd =>
    ((fd.fieldAll "declarator").filter (·.kind == "parenthesized_declarator")).flatMap fun pd =>
      (pd.children.filter (·.kind == "pointer_declarator")).flatMap fun pt =>
        ((pt.fieldAll "declarator").filter (·.kind == "field_identifier")).filterMap
          (·.text? src)

/-- What the lowering reads and never changes. -/
structure Facts where
  src : ByteArray
  dialect : Dialect
  bitfields : List String
  fnPointers : List String

/-- What the lowering builds as it goes. -/
structure Progress where
  /-- The record arena so far. -/
  records : Array Record := #[]
  /-- Scoped record keys (`n::Outer::Inner`) to the record they name. -/
  index : List (String × Nat) := []
  /-- The key each record of the arena was offered to the index under, in arena order; `none`
  for a record without a name. No lowering step reads it: it is the history the index is built
  from, kept so that the index can be described by it. -/
  keys : Array (Option String) := #[]
  /-- The enclosing namespaces and classes, outermost first. -/
  scope : List String := []
  /-- Type parameters of the enclosing templates, innermost first. -/
  templateParams : List (List String) := []
  /-- Parameters and locals of the enclosing function bodies, innermost first. -/
  locals : List (List String) := []

/-- A lowering step. -/
abbrev Lower := ReaderT Facts (StateM Progress)

/-- A parameter or local of some enclosing body. -/
def isLocal (locals : List (List String)) (name : String) : Bool :=
  locals.any (·.contains name)

/-- The record a scoped key names. -/
def findKey (index : List (String × Nat)) (key : String) : Option Nat :=
  (index.find? (·.1 == key)).map (·.2)

/-- The index key of a record named `path` declared in `scope`. -/
def scopedKey (scope : List String) (path : String) : String :=
  match Qualified.stripRoot? path with
  | some absolute => absolute
  | none => if scope.isEmpty then path else Qualified.join scope ++ "::" ++ path

/-- The record a class name refers to from `scope`: a name with a leading `::` is looked up as
it stands, any other under each enclosing scope from the innermost outward. -/
def lookupRecord (index : List (String × Nat)) (scope : List String) (path : String) :
    Option Nat :=
  match Qualified.stripRoot? path with
  | some absolute => findKey index absolute
  | none =>
    (List.range (scope.length + 1)).reverse.findSome? fun depth =>
      findKey index (if depth == 0 then path else Qualified.join (scope.take depth) ++ "::" ++ path)

/-- What a base specifier's class name refers to. -/
def baseType (f : Facts) (p : Progress) (t : Tree) : BaseType :=
  let path := classPath f.src t
  if !Qualified.hasSeparator path && p.templateParams.any (·.contains path) then .nonRecord path
  else match lookupRecord p.index p.scope path with
    | some id => .record id
    | none => .unresolved (spelled f.src t)

/-- A base specifier read so far from the tokens of a base clause. -/
structure PendingBase where
  start : Option Location := none
  access : Option Access := none
  isVirtual : Bool := false
  type : Option Tree := none

/-- Ends a base specifier: it is kept when it has a class name. -/
def finishBase (f : Facts) (p : Progress) (tag : Tag) (pb : PendingBase) (done : List Base) :
    List Base :=
  match pb.start, pb.type with
  | some loc, some ty =>
    done ++ [{ loc, access := pb.access.getD tag.defaultAccess, isVirtual := pb.isVirtual,
               type := baseType f p ty }]
  | _, _ => done

/-- One token of a base clause: a comma ends a specifier; an access keyword, `virtual` or a
class name fills the current one, and every token but `:` and comments fixes where it starts. -/
def baseStep (f : Facts) (p : Progress) (tag : Tag) (st : PendingBase × List Base) (c : Tree) :
    PendingBase × List Base :=
  match c.kind with
  | ":" | "comment" => st
  | "," => ({}, finishBase f p tag st.1 st.2)
  | k =>
    let pb := st.1
    let pb :=
      if ["access_specifier", "public", "protected", "private"].contains k then
        { pb with access := Access.ofText? (c.text f.src) }
      else if k == "virtual" then { pb with isVirtual := true }
      else if ["type_identifier", "qualified_identifier", "template_type"].contains k then
        { pb with type := some c }
      else pb
    let pb := match pb.start with
      | some _ => pb
      | none => { pb with start := some (location c) }
    (pb, st.2)

/-- The base specifiers of a base clause, in order. -/
def lowerBases (f : Facts) (p : Progress) (clause : Tree) (tag : Tag) : List Base :=
  let (pb, done) := clause.children.foldl (baseStep f p tag) ({}, [])
  finishBase f p tag pb done

/-- The bit-field member an operand designates, if any. -/
def bitfieldTarget (f : Facts) (locals : List (List String)) (t : Tree) : Option String :=
  match t.kind with
  | "parenthesized_expression" =>
    match _h : t.namedChildren.head? with
    | some inner => bitfieldTarget f locals inner
    | none => none
  | "field_expression" =>
    match t.field? "field" with
    | some fld =>
      let name := fld.text f.src
      if f.bitfields.contains name then some name else none
    | none => none
  | "identifier" | "field_identifier" =>
    let name := t.text f.src
    if f.bitfields.contains name && !isLocal locals name then some name else none
  | _ => none
termination_by sizeOf t
decreasing_by exact Tree.sizeOf_head?_lt _h

/-- The name a call's callee spells, when it calls a named function. -/
def resolveCallee (f : Facts) (locals : List (List String)) (t : Tree) : Option String :=
  match t.kind with
  | "identifier" =>
    let name := t.text f.src
    if isLocal locals name || f.fnPointers.contains name then none else some name
  | "qualified_identifier" => some (spelled f.src t)
  | "template_function" =>
    match t.field? "name" with
    | some n =>
      let name := spelled f.src n
      if isLocal locals name then none else some name
    | none => none
  | "field_expression" =>
    match t.field? "field" with
    | some fld =>
      let name := fld.text f.src
      if f.fnPointers.contains name then none else some (collapseBlanks name)
    | none => none
  | _ => none

/-- The bodies of a local record's member functions, nested records' included, each as a
`method` node. Members name records pushed before the record, so the recursion goes down. -/
def localRecordBodies (records : Array Record) (id : Nat) : List Node :=
  match records[id]? with
  | none => []
  | some r =>
    r.members.flatMap fun
      | .function fn =>
        match fn.body with
        | some b => [.mk (.other "method") fn.loc b]
        | none => []
      | .record j => if j < id then localRecordBodies records j else []
      | _ => []
termination_by id

/-- A function declaration from its declaration node and function declarator. -/
def functionDecl (f : Facts) (t fd : Tree) (qualifier : Option String)
    (body : Option (List Node)) : Function :=
  let written := ((fd.field? "declarator").map (spelled f.src)).getD ""
  let name := Qualified.lastSegment written
  let params := fd.field? "parameters"
  { name
    qualifiedName := match qualifier with
      | some q => q ++ "::" ++ written
      | none => written
    loc := location t
    hasPrototype := hasPrototype f.dialect params
    paramCount := (params.map (paramCount f.src)).getD 0
    userProvided := !isDefaultedOrDeleted t
    builtin := name.startsWith "__builtin_"
    body }

/-- Pushes a record to the arena and indexes its key: a definition always takes the key, a
declaration only a key not taken yet. The key joins the history of keys either way. -/
def pushRecord (r : Record) (key : Option String) : Lower Nat := do
  let p ← get
  let id := p.records.size
  let index := match key with
    | some k =>
      if r.hasDefinition || (findKey p.index k).isNone then (k, id) :: p.index.filter (·.1 != k)
      else p.index
    | none => p.index
  set { p with records := p.records.push r, index, keys := p.keys.push key }
  return id

/-- Enters a template's parameters. -/
def pushTemplateParams (t : Tree) : Lower Unit := do
  let names := templateParamNames (← read).src t
  modify fun p => { p with templateParams := names :: p.templateParams }

/-- Leaves the innermost template. -/
def popTemplateParams : Lower Unit :=
  modify fun p => { p with templateParams := p.templateParams.drop 1 }

/-- Enters a body whose parameters are `names`. -/
def pushLocals (names : List String) : Lower Unit :=
  modify fun p => { p with locals := names :: p.locals }

/-- Leaves the innermost body. -/
def popLocals : Lower Unit :=
  modify fun p => { p with locals := p.locals.drop 1 }

/-- A local variable node for a declarator, over its initializer's nodes; a declarator without
a name leaves the initializer's nodes alone. -/
def pushLocal (d : Tree) (children : List Node) : Lower (List Node) := do
  match declaratorName (← read).src d with
  | none => return children
  | some name =>
    modify fun p => { p with locals := match p.locals with
      | s :: rest => (name :: s) :: rest
      | [] => [] }
    return [.mk (.localVar name) (location d) children]

/-- Counts one declarator of a member declaration: a function is a method, and the first
destructor is kept; anything else not `static` is a data member. -/
def countDeclarator (t : Tree) (isStatic : Bool) (r : Record) (d : Tree) : Record :=
  match findFunctionDeclarator d with
  | some fd =>
    let r := { r with methods := r.methods + 1 }
    let isDtor := ((fd.field? "declarator").map (·.kind == "destructor_name")).getD false
    if isDtor && r.destructor.isNone then
      { r with destructor := some { loc := location t, isVirtual := hasVirtual t,
                                    userProvided := !isDefaultedOrDeleted t } }
    else r
  | none => if isStatic then r else { r with dataMembers := r.dataMembers + 1 }

mutual

/-- Lowers a file-scope item to its declarations. -/
def lowerTop : Nat → Tree → Lower (List Decl)
  | 0, _ => pure []
  | n + 1, t =>
    match t.kind with
    | "function_definition" => do
      let fn ← lowerFunction n t none
      return fn.toList.map .function
    | "declaration" | "type_definition" => lowerDeclaration n t
    | "class_specifier" | "struct_specifier" | "union_specifier" => do
      let id ← lowerRecord n t none
      return [.record id]
    | "namespace_definition" => do
      let src := (← read).src
      let name := (t.field? "name").map (spelled src)
      if let some nm := name then
        modify fun p => { p with scope := p.scope ++ [nm] }
      let decls ← match t.field? "body" with
        | some body => do
          let ds ← body.namedChildren.mapM fun c => lowerTop n c
          pure ds.flatten
        | none => pure []
      if name.isSome then
        modify fun p => { p with scope := p.scope.dropLast }
      return [.scope (name.getD anonymous) decls]
    | "linkage_specification" =>
      match t.field? "body" with
      | some body =>
        if body.kind == "declaration_list" then do
          let ds ← body.namedChildren.mapM fun c => lowerTop n c
          pure ds.flatten
        else lowerTop n body
      | none => pure []
    | "template_declaration" => do
      pushTemplateParams t
      let ds ← (t.namedChildren.filter (·.kind != "template_parameter_list")).mapM fun c =>
        lowerTop n c
      popTemplateParams
      return ds.flatten
    | k =>
      if k == "declaration_list" || k == "ERROR" || isPreprocContainer k then do
        let ds ← t.namedChildren.mapM fun c => lowerTop n c
        pure ds.flatten
      else pure []
termination_by structural fuel _ => fuel

/-- Lowers a file-scope declaration: the record its type defines or forward-declares, then a
function or `other` per declarator; a type definition gives only the record. -/
def lowerDeclaration : Nat → Tree → Lower (List Decl)
  | 0, _ => pure []
  | n + 1, t => do
    let declarators := t.fieldAll "declarator"
    let recs ← match t.field? "type" with
      | some ty =>
        if isRecordDefinition ty || (isRecordSpecifier ty && declarators.isEmpty) then do
          let id ← lowerRecord n ty none
          pure [Decl.record id]
        else pure []
      | none => pure []
    if t.kind == "type_definition" then return recs
    let f ← read
    return recs ++ declarators.map fun d =>
      match findFunctionDeclarator d with
      | some fd => .function (functionDecl f t fd none none)
      | none => .other

/-- Lowers a function definition; `qualifier` is the enclosing record's name for a member
function defined in its class. -/
def lowerFunction : Nat → Tree → Option String → Lower (Option Function)
  | 0, _, _ => pure none
  | n + 1, t, qualifier => do
    let some d := t.field? "declarator" | return none
    let some fd := findFunctionDeclarator d | return none
    let f ← read
    let body ← match t.field? "body" with
      | some b => do
        pushLocals (paramNames f.src fd)
        let nodes ← lowerChildren n b
        popLocals
        pure (some nodes)
      | none => pure none
    return some (functionDecl f t fd qualifier body)
termination_by structural fuel _ _ => fuel

/-- Lowers a record specifier and pushes it after its members; returns its index. -/
def lowerRecord : Nat → Tree → Option String → Lower Nat
  | 0, t, _ =>
    pushRecord { name := anonymous, tag := tagOf t.kind, loc := location t,
                 hasDefinition := false, dataMembers := 0, methods := 0, bases := [],
                 destructor := none, members := [] } none
  | n + 1, t, qualifier => do
    let f ← read
    let p ← get
    let path := (t.field? "name").map (classPath f.src)
    let name := (path.map Qualified.lastSegment).getD anonymous
    let key := path.map (scopedKey p.scope)
    let qualified := match qualifier with
      | some q => q ++ "::" ++ name
      | none => name
    let body := t.field? "body"
    let tag := tagOf t.kind
    let bases := match t.namedChildren.find? (·.kind == "base_class_clause") with
      | some clause => lowerBases f p clause tag
      | none => []
    let record : Record :=
      { name, tag, loc := location t, hasDefinition := body.isSome, dataMembers := 0,
        methods := 0, bases, destructor := none, members := [] }
    let record ← match body with
      | some b => do
        let inner := match key with
          | some k => Qualified.segments k
          | none => p.scope ++ [anonymous]
        modify fun q => { q with scope := inner }
        let r ← lowerMembers n b qualified record
        modify fun q => { q with scope := p.scope }
        pure r
      | none => pure record
    pushRecord record key
termination_by structural fuel _ _ => fuel

/-- Lowers the members of a record body into the record. -/
def lowerMembers : Nat → Tree → String → Record → Lower Record
  | 0, _, _, r => pure r
  | n + 1, body, q, r => body.namedChildren.foldlM (fun r m => lowerMember n m q r) r
termination_by structural fuel _ _ _ => fuel

/-- Lowers one member of a record body; access labels, friends, using and alias declarations,
static assertions and enums add nothing. -/
def lowerMember : Nat → Tree → String → Record → Lower Record
  | 0, _, _, r => pure r
  | n + 1, m, q, r =>
    match m.kind with
    | "field_declaration" | "declaration" => lowerMemberDeclaration n m q r
    | "function_definition" => lowerMemberFunction n m q r
    | "template_declaration" => do
      pushTemplateParams m
      let r ← m.namedChildren.foldlM (fun r i =>
        match i.kind with
        | "function_definition" => lowerMemberFunction n i q r
        | "field_declaration" | "declaration" => lowerMemberDeclaration n i q r
        | _ =>
          if isRecordDefinition i then do
            let id ← lowerRecord n i (some q)
            pure { r with members := r.members ++ [.record id] }
          else pure r) r
      popTemplateParams
      return r
    | k =>
      if isPreprocContainer k then lowerMembers n m q r
      else if isRecordDefinition m then do
        let id ← lowerRecord n m (some q)
        return { r with members := r.members ++ [.record id] }
      else pure r
termination_by structural fuel _ _ _ => fuel

/-- Lowers a member declaration: the record its type defines, then its declarators. -/
def lowerMemberDeclaration : Nat → Tree → String → Record → Lower Record
  | 0, _, _, r => pure r
  | n + 1, t, q, r => do
    let r ← match t.field? "type" with
      | some ty =>
        if isRecordDefinition ty then do
          let id ← lowerRecord n ty (some q)
          pure { r with members := r.members ++ [.record id] }
        else pure r
      | none => pure r
    let src := (← read).src
    let isStatic := t.children.any fun c =>
      c.kind == "storage_class_specifier" && c.text src == "static"
    return (t.fieldAll "declarator").foldl (countDeclarator t isStatic) r
termination_by structural fuel _ _ _ => fuel

/-- Lowers a member function defined in its class: a method, and the destructor when its name
starts with `~` and none was seen. -/
def lowerMemberFunction : Nat → Tree → String → Record → Lower Record
  | 0, _, _, r => pure r
  | n + 1, t, q, r => do
    let r := { r with methods := r.methods + 1 }
    let some fn ← lowerFunction n t (some q) | return r
    let r :=
      if fn.name.startsWith "~" && r.destructor.isNone then
        { r with destructor := some { loc := location t, isVirtual := hasVirtual t,
                                      userProvided := fn.userProvided } }
      else r
    return { r with members := r.members ++ [.function fn] }
termination_by structural fuel _ _ _ => fuel

/-- Lowers the named children of a node, in order. -/
def lowerChildren : Nat → Tree → Lower (List Node)
  | 0, _ => pure []
  | n + 1, t => do
    let cs ← t.namedChildren.mapM fun c => lowerInto n c
    return cs.flatten
termination_by structural fuel _ => fuel

/-- Lowers the child filling a field, if there is one. -/
def lowerField : Nat → Tree → String → Lower (List Node)
  | 0, _, _ => pure []
  | n + 1, t, fld =>
    match t.field? fld with
    | some c => lowerInto n c
    | none => pure []
termination_by structural fuel _ _ => fuel

/-- Lowers a node of a function body to the nodes it stands for. -/
def lowerInto : Nat → Tree → Lower (List Node)
  | 0, _ => pure []
  | n + 1, t => do
    let f ← read
    let loc := location t
    match t.kind with
    | "binary_expression" | "assignment_expression" | "comma_expression" =>
      let symbol := if t.kind == "comma_expression" then "," else operatorSymbol t
      let p ← get
      let bitfield := (t.field? "left").bind (bitfieldTarget f p.locals)
      let cs ← lowerChildren n t
      return [.mk (.binary symbol bitfield) loc cs]
    | "unary_expression" | "pointer_expression" | "update_expression" =>
      let arg := t.field? "argument"
      let trailing := match t.field? "operator", arg with
        | some op, some a => op.start.byte > a.start.byte
        | _, _ => false
      let p ← get
      let bitfield := arg.bind (bitfieldTarget f p.locals)
      let cs ← lowerChildren n t
      return [.mk (.unary (operatorSymbol t) trailing bitfield) loc cs]
    | "conditional_expression" =>
      let kind := if (t.field? "consequence").isSome then NodeKind.ternary else .shortCircuit
      let cs ← lowerChildren n t
      return [.mk kind loc cs]
    | "call_expression" =>
      let p ← get
      let callee := (t.field? "function").bind (resolveCallee f p.locals)
      let args := match t.field? "arguments" with
        | some a => (a.namedChildren.filter (·.kind != "comment")).length
        | none => 0
      let cs ← lowerChildren n t
      return [.mk (.call callee args) loc cs]
    | "declaration" => lowerLocalDeclaration n t
    | "for_range_loop" =>
      let decl ← match t.field? "declarator" with
        | some d => pushLocal d []
        | none => pure []
      let rest ← ["initializer", "right", "body"].mapM fun fld => lowerField n t fld
      return decl ++ rest.flatten
    | "catch_clause" =>
      let decls ← match t.field? "parameters" with
        | some ps => do
          let ls ← (parameters ps).mapM fun prm =>
            match prm.field? "declarator" with
            | some d => pushLocal d []
            | none => pure []
          pure ls.flatten
        | none => pure []
      let body ← lowerField n t "body"
      return decls ++ body
    | "lambda_expression" =>
      let names := match t.field? "declarator" with
        | some d => paramNames f.src d
        | none => []
      pushLocals names
      let body ← lowerField n t "body"
      popLocals
      return [.mk (.other "lambda") loc body]
    | k =>
      if isRecordDefinition t then do
        let id ← lowerRecord n t none
        let methods := localRecordBodies (← get).records id
        return [.mk (.record id) loc methods]
      else if ["comment", "string_literal", "raw_string_literal", "char_literal",
               "number_literal", "concatenated_string"].contains k then return []
      else lowerChildren n t
termination_by structural fuel _ => fuel

/-- Lowers a block-scope declaration: the record its type defines, then a local per declarator
that does not declare a function, over its initializer's nodes. A condition declaration
(`if (int n = f())`) holds its initializer on the declaration itself. -/
def lowerLocalDeclaration : Nat → Tree → Lower (List Node)
  | 0, _ => pure []
  | n + 1, t => do
    let recs ← match t.field? "type" with
      | some ty => if isRecordDefinition ty then lowerInto n ty else pure []
      | none => pure []
    let locals ← (t.fieldAll "declarator").mapM fun d =>
      if (findFunctionDeclarator d).isSome then pure []
      else do
        let init ← if d.kind == "init_declarator" then lowerField n d "value"
          else lowerField n t "value"
        pushLocal d init
    return recs ++ locals.flatten
termination_by structural fuel _ => fuel

end

end OfTree

open OfTree in
/-- **The lowering of a file**: the file-scope items of the tree in order, the records they
define in the arena, and whether the tree holds a syntax error. -/
def Outline.ofTree (path : String) (src : ByteArray) (dialect : Dialect) (root : Tree) :
    Outline :=
  let all := root.nodes
  let facts : Facts :=
    { src, dialect, bitfields := all.flatMap (bitfieldCaptures src)
      fnPointers := all.flatMap (fnPointerCaptures src) }
  let fuel := 4 * root.size + 16
  let (decls, p) := ((root.namedChildren.mapM fun c => lowerTop fuel c).run facts).run {}
  { path, decls := decls.flatten, records := p.records, hasParseErrors := root.hasError }

end SourceAudit
