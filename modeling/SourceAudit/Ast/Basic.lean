import SourceAudit.Text.Blank
/-!
# The declaration model of a translation unit

What an analysis sees of one C or C++ file: declarations in source order, records (classes,
structs and unions) in an arena addressed by their index, and function bodies as trees of
classified nodes. A record's members, a record declaration in a body and a base specifier
refer to records by index; an index may be out of range (a dangling reference), and the
queries treat such a reference as absent.

Main definitions:
* `Node`, `NodeKind`: body trees; only operators, calls, locals and local records are told
  apart, everything else is `other`.
* `Function`, `Decl`, `Record`, `Base`, `Destructor`.
* `Outline`: the whole file, with `Outline.record?` for arena look-up.
-/

namespace SourceAudit

/-- A position in the source: line and column, both counted from one; the column counts
bytes. -/
structure Location where
  line : Nat := 1
  column : Nat := 1
  deriving Repr, BEq, DecidableEq, Inhabited

/-- What a body node is, as far as the metrics care. -/
inductive NodeKind where
  /-- A binary operator; `bitfield` is the bit-field member it writes to, if any. -/
  | binary (symbol : String) (bitfield : Option String)
  /-- A unary operator; `trailing` marks the operator written after its operand. -/
  | unary (symbol : String) (trailing : Bool) (bitfield : Option String)
  /-- `c ? a : b`. -/
  | ternary
  /-- `a ?: b`. -/
  | shortCircuit
  /-- A call; `callee` is the name called when it is a plain function name. -/
  | call (callee : Option String) (args : Nat)
  /-- A local variable declaration. -/
  | localVar (name : String)
  /-- A record defined inside the body. -/
  | record (id : Nat)
  /-- Anything else, with a label (`lambda`, `method`). -/
  | other (label : String)
  deriving Repr, BEq, DecidableEq, Inhabited

/-- A node of a function body with its children, in source order. -/
inductive Node where
  | mk (kind : NodeKind) (loc : Location) (children : List Node)
  deriving Repr, Inhabited

namespace Node

/-- The kind of a node. -/
def kind : Node → NodeKind
  | mk k _ _ => k

/-- The location of a node. -/
def loc : Node → Location
  | mk _ l _ => l

/-- The children of a node. -/
def children : Node → List Node
  | mk _ _ cs => cs

end Node

/-- A function declaration or definition. -/
structure Function where
  name : String
  qualifiedName : String
  loc : Location
  /-- Parameters are written out (always so in C++; in C, not for `f()` or `f(a, b)`). -/
  hasPrototype : Bool
  paramCount : Nat
  /-- Not `= default` and not `= delete`. -/
  userProvided : Bool
  /-- The name starts with `__builtin_`. -/
  builtin : Bool
  /-- The body of a definition; `none` for a declaration. -/
  body : Option (List Node)
  deriving Repr, Inhabited

/-- A declaration at file, namespace or class scope. -/
inductive Decl where
  | function (f : Function)
  | record (id : Nat)
  | scope (name : String) (decls : List Decl)
  | other
  deriving Repr, Inhabited

/-- The keyword that introduced a record. -/
inductive Tag where
  | struct
  | cls
  | union
  deriving Repr, BEq, DecidableEq, Inhabited

/-- Access of a base specifier. -/
inductive Access where
  | pub
  | prot
  | priv
  deriving Repr, BEq, DecidableEq, Inhabited

namespace Tag

/-- The keyword as written. -/
def name : Tag → String
  | struct => "struct"
  | cls => "class"
  | union => "union"

/-- Bases of a `class` are private unless said otherwise; of a `struct` or `union`, public. -/
def defaultAccess : Tag → Access
  | cls => .priv
  | _ => .pub

end Tag

namespace Access

/-- Reads an access keyword, ignoring surrounding blanks. -/
def ofText? (s : String) : Option Access :=
  match Text.trimBlank s with
  | "public" => some .pub
  | "protected" => some .prot
  | "private" => some .priv
  | _ => none

/-- The keyword as written. -/
def name : Access → String
  | pub => "public"
  | prot => "protected"
  | priv => "private"

end Access

/-- What a base specifier names: a record of the arena, a template parameter, or a name that
matched no record. -/
inductive BaseType where
  | record (id : Nat)
  | nonRecord (name : String)
  | unresolved (name : String)
  deriving Repr, BEq, DecidableEq, Inhabited

/-- One entry of a base clause. -/
structure Base where
  loc : Location
  access : Access
  isVirtual : Bool
  type : BaseType
  deriving Repr, BEq, DecidableEq, Inhabited

/-- A declared destructor. -/
structure Destructor where
  loc : Location
  isVirtual : Bool
  userProvided : Bool
  deriving Repr, BEq, DecidableEq, Inhabited

/-- A class, struct or union. -/
structure Record where
  name : String
  tag : Tag
  loc : Location
  hasDefinition : Bool
  dataMembers : Nat
  methods : Nat
  bases : List Base
  destructor : Option Destructor
  members : List Decl
  deriving Repr, Inhabited

/-- No data member, no method and no destructor of its own. -/
def Record.hasNoOwnMembers (r : Record) : Bool :=
  r.dataMembers == 0 && r.methods == 0 && r.destructor.isNone

/-- One analysed file. -/
structure Outline where
  path : String
  decls : List Decl
  records : Array Record
  hasParseErrors : Bool
  deriving Repr, Inhabited

namespace Outline

/-- The record at an index, if the index is in range. -/
def record? (u : Outline) (id : Nat) : Option Record := u.records[id]?

/-- `path:line:column`. -/
def renderLocation (u : Outline) (l : Location) : String :=
  s!"{u.path}:{l.line}:{l.column}"

/-- The record a base names, if it names one in range. -/
def resolve (u : Outline) (b : Base) : Option Nat :=
  match b.type with
  | .record id => if id < u.records.size then some id else none
  | _ => none

end Outline

end SourceAudit
