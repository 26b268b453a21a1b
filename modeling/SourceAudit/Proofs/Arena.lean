import SourceAudit.Proofs.Dispatch
import SourceAudit.Proofs.Bases
import SourceAudit.Ast.OfTree
/-!
# Arenas in lowering order

The lowering pushes a record to the arena only after its members, and resolves a base against
records already pushed. So every record index a unit mentions names a record, and a record's
bases and members mention only records before it (`Outline.Ordered`). On such an arena the base
graph and the membership graph go strictly down, and the cycle guards of the walk and of the
two record queries never cut anything.

This module states the order and what follows from it:

* `Outline.localRecordIds_eq`: the records a body defines are its record nodes in pre-order.
* `Decl.refs`, `Record.Below`, `Arena.Ordered`, **`Outline.Ordered`**.
* `Outline.MemberEdge`: the membership graph; `Outline.Ordered.baseEdge_lt` and
  `Outline.Ordered.memberEdge_lt` say both graphs go down on an ordered arena.
* `Arena.declIds`, `Arena.bodyIds`, `Arena.nestedIds`: the records the walk reaches, without its
  guard; `Outline.visits_recordId?` shows the walk reaches exactly these on an ordered unit.
* `Arena.memberIds_perm`: below a record, the member records followed by the records defined in
  the member bodies are the records the declaration walk reaches there, in another order.
* `Outline.isEmptyRecord_eq`, `Outline.hasVirtualDestructor_eq`: on an ordered unit the queries
  are the plain recursions over bases.
-/

namespace SourceAudit

/-- The record a body node defines, if it is a record node. -/
def NodeKind.recordId? : NodeKind → Option Nat
  | .record id => some id
  | _ => none

theorem Node.forestPreorder_append (xs ys : List Node) :
    Node.forestPreorder (xs ++ ys) = Node.forestPreorder xs ++ Node.forestPreorder ys := by
  induction xs with
  | nil => rfl
  | cons x xs ih => simp [Node.forestPreorder, ih]

namespace Outline

/-- A walk whose visitor never declines children is a fold over the pre-order. -/
theorem walkStack_eq_foldl {σ : Type} (visit : σ → Node → σ × Flow) (step : σ → Node → σ)
    (hv : ∀ s n, visit s n = (step s n, .continue)) (stack : List Node) (s : σ) :
    Node.walkStack visit stack s = (Node.forestPreorder stack).foldl step s := by
  induction stack, s using Node.walkStack.induct visit with
  | case1 s => simp [Node.walkStack, Node.forestPreorder]
  | case2 n rest s s' hvisit ih =>
    rw [Node.walkStack, hvisit]
    dsimp only
    rw [ih]
    rw [hv] at hvisit
    cases hvisit
    obtain ⟨k, l, cs⟩ := n
    simp [Node.children, Node.forestPreorder, Node.preorder, Node.forestPreorder_append]
  | case3 n rest s s' hvisit =>
    rw [hv] at hvisit
    cases hvisit

/-- **The records a body defines are its record nodes in pre-order**, cloned method bodies
included. -/
theorem localRecordIds_eq (body : List Node) :
    localRecordIds body = (Node.forestPreorder body).filterMap (·.kind.recordId?) := by
  let step : List Nat → Node → List Nat := fun ids n => ids ++ n.kind.recordId?.toList
  have hstep : ∀ (l : List Node) (acc : List Nat),
      l.foldl step acc = acc ++ l.filterMap (·.kind.recordId?) := by
    intro l
    induction l with
    | nil => simp
    | cons n l ih =>
      intro acc
      cases h : n.kind.recordId? <;> simp [step, h, ih]
  rw [localRecordIds, Node.walk, walkStack_eq_foldl _ step, hstep, List.nil_append]
  rintro s ⟨k, l, cs⟩
  cases k <;> simp [step, Node.kind, NodeKind.recordId?]

@[simp] theorem localRecordIds_nil : localRecordIds [] = [] := by
  simp [localRecordIds_eq, Node.forestPreorder]

@[simp] theorem localRecordIds_append (xs ys : List Node) :
    localRecordIds (xs ++ ys) = localRecordIds xs ++ localRecordIds ys := by
  simp [localRecordIds_eq, Node.forestPreorder_append]

@[simp] theorem localRecordIds_cons (k : NodeKind) (l : Location) (cs rest : List Node) :
    localRecordIds (Node.mk k l cs :: rest) =
      k.recordId?.toList ++ localRecordIds cs ++ localRecordIds rest := by
  simp only [localRecordIds_eq, Node.forestPreorder, Node.preorder, List.cons_append,
    List.filterMap_cons, Node.kind, List.filterMap_append]
  cases k.recordId? <;> simp

theorem localRecordIds_flatMap {α : Type} (l : List α) (g : α → List Node) :
    localRecordIds (l.flatMap g) = l.flatMap fun a => localRecordIds (g a) := by
  induction l with
  | nil => simp
  | cons a l ih => simp [ih]

end Outline

/-- Every record index a declaration mentions: the records it names and, in function bodies,
the records defined there, cloned method bodies included. -/
def Decl.refs : Decl → List Nat
  | .function f => Outline.localRecordIds (f.body.getD [])
  | .record id => [id]
  | .scope _ ds => ds.flatMap Decl.refs
  | .other => []

/-- A declaration that may stand among a record's members: a function or a member record. -/
def Decl.IsMember : Decl → Prop
  | .function _ => True
  | .record _ => True
  | _ => False

/-- Record `r` at index `i` of an arena in lowering order: its bases and members mention only
records before it. -/
structure Record.Below (i : Nat) (r : Record) : Prop where
  bases : ∀ b ∈ r.bases, ∀ j, b.type = .record j → j < i
  members : ∀ d ∈ r.members, ∀ j ∈ d.refs, j < i

namespace Arena

/-- Every record of the arena is below its own index. -/
def Ordered (R : Array Record) : Prop := ∀ i (h : i < R.size), R[i].Below i

/-- The arena `R'` extends `R`: the records of `R` keep their indices. -/
def Grows (R R' : Array Record) : Prop := R.toList <+: R'.toList

theorem Grows.refl (R : Array Record) : Grows R R := List.prefix_refl _

theorem Grows.trans {R R' R'' : Array Record} (h : Grows R R') (h' : Grows R' R'') :
    Grows R R'' := List.IsPrefix.trans h h'

theorem Grows.size_le {R R' : Array Record} (h : Grows R R') : R.size ≤ R'.size := by
  simpa using h.length_le

theorem Grows.push (R : Array Record) (r : Record) : Grows R (R.push r) := by
  simp [Grows]

theorem Grows.getElem? {R R' : Array Record} (h : Grows R R') {i : Nat} (hi : i < R.size) :
    R'[i]? = R[i]? := by
  obtain ⟨ext, hext⟩ := h
  rw [← Array.getElem?_toList, ← Array.getElem?_toList, ← hext,
    List.getElem?_append_left (by simpa using hi)]

/-! ### The records a walk reaches, without its guard -/

/-- The member records below record `i`, each followed by those below it: what the walk
dispatches below a record defined in a body. Only records before `i` are entered. -/
def nestedIds (R : Array Record) (i : Nat) : List Nat :=
  match R[i]? with
  | none => []
  | some r => r.members.flatMap fun
    | .record j => if j < i ∧ j < R.size then j :: nestedIds R j else []
    | _ => []
termination_by i

/-- A record defined in a body, followed by its member records. -/
def localIds (R : Array Record) (id : Nat) : List Nat :=
  if id < R.size then id :: nestedIds R id else []

/-- The records the walk reaches from a body: each record defined there, in pre-order, followed
by its member records. -/
def bodyIds (R : Array Record) (body : List Node) : List Nat :=
  (Outline.localRecordIds body).flatMap (localIds R)

/-- The records the walk reaches under a declaration, entering only records before `b`. -/
def declIds (R : Array Record) (b : Nat) : Decl → List Nat
  | .function f => bodyIds R (f.body.getD [])
  | .record id =>
    if id < b then
      match R[id]? with
      | none => []
      | some r => id :: r.members.flatMap (declIds R id)
    else []
  | .scope _ ds => ds.flatMap (declIds R b)
  | .other => []
termination_by d => (b, sizeOf d)

/-- The records the walk reaches under the members of record `i`. -/
def memberIds (R : Array Record) (i : Nat) : List Nat :=
  match R[i]? with
  | none => []
  | some r => r.members.flatMap (declIds R i)

variable {R R' : Array Record}

@[simp] theorem bodyIds_nil : bodyIds R [] = [] := by simp [bodyIds]

@[simp] theorem bodyIds_append (xs ys : List Node) :
    bodyIds R (xs ++ ys) = bodyIds R xs ++ bodyIds R ys := by
  simp [bodyIds]

theorem bodyIds_cons (k : NodeKind) (l : Location) (cs rest : List Node) :
    bodyIds R (Node.mk k l cs :: rest) =
      k.recordId?.toList.flatMap (localIds R) ++ bodyIds R cs ++ bodyIds R rest := by
  simp [bodyIds]

theorem bodyIds_flatMap {α : Type} (l : List α) (g : α → List Node) :
    bodyIds R (l.flatMap g) = l.flatMap fun a => bodyIds R (g a) := by
  simp [bodyIds, Outline.localRecordIds_flatMap, List.flatMap_assoc]

theorem declIds_record_of_lt {b id : Nat} {r : Record} (hb : id < b) (hr : R[id]? = some r) :
    declIds R b (.record id) = id :: r.members.flatMap (declIds R id) := by
  rw [declIds, if_pos hb, hr]

/-- Once the arena holds the records a body mentions, growing it changes nothing the walk
reaches from the body. -/
theorem nestedIds_grow (hg : Grows R R') : ∀ i, i < R.size → nestedIds R' i = nestedIds R i := by
  intro i
  induction i using Nat.strongRecOn with
  | _ i ih =>
    intro hi
    rw [nestedIds, nestedIds, hg.getElem? hi]
    cases R[i]? with
    | none => rfl
    | some r =>
      refine List.flatMap_congr fun d _ => ?_
      cases d with
      | record j =>
        have hsize := hg.size_le
        by_cases hj : j < i
        · simp only [hj, true_and, show j < R'.size by omega, show j < R.size by omega, if_true]
          rw [ih j hj (by omega)]
        · simp [hj]
      | function _ | scope _ _ | other => rfl

theorem bodyIds_grow (hg : Grows R R') {body : List Node}
    (hb : ∀ j ∈ Outline.localRecordIds body, j < R.size) : bodyIds R' body = bodyIds R body := by
  refine List.flatMap_congr fun id hid => ?_
  have hlt := hb id hid
  simp only [localIds, hlt, Nat.lt_of_lt_of_le hlt hg.size_le, if_true,
    nestedIds_grow hg id hlt]

theorem declIds_grow (hord : Ordered R) (hg : Grows R R') :
    ∀ b d, (∀ j ∈ d.refs, j < R.size) → declIds R' b d = declIds R b d := by
  intro b d
  induction b, d using declIds.induct R with
  | case1 b f =>
    intro hd
    simp only [declIds]
    exact bodyIds_grow hg (by simpa [Decl.refs] using hd)
  | case2 b id hb hnone =>
    intro hd
    have hid : id < R.size := hd id (by simp [Decl.refs])
    rw [declIds, declIds, hg.getElem? hid, hnone]
  | case3 b id hb r hr ih =>
    intro hd
    have hid : id < R.size := hd id (by simp [Decl.refs])
    rw [declIds_record_of_lt hb hr, declIds_record_of_lt hb ((hg.getElem? hid).trans hr)]
    obtain ⟨hid', rfl⟩ := Array.getElem?_eq_some_iff.mp hr
    congr 1
    refine List.flatMap_congr fun d hd' => ih d fun j hj => ?_
    exact Nat.lt_trans ((hord id hid).members d hd' j hj) hid
  | case4 b id hb => simp [declIds, hb]
  | case5 b name ds ih =>
    intro hd
    simp only [declIds]
    refine List.flatMap_congr fun d hd' => ih d hd' fun j hj => hd j ?_
    simpa [Decl.refs] using ⟨d, hd', hj⟩
  | case6 b => simp [declIds]

theorem declIds_bound : ∀ (b : Nat) (d : Decl) (b' : Nat), (∀ j ∈ d.refs, j < b) →
    (∀ j ∈ d.refs, j < b') → declIds R b d = declIds R b' d := by
  intro b d
  induction b, d using declIds.induct R with
  | case1 b f => simp [declIds]
  | case5 b name ds ih =>
    intro b' hd hd'
    simp only [declIds]
    refine List.flatMap_congr fun d hd'' => ih d hd'' b' (fun j hj => hd j ?_) (fun j hj => hd' j ?_)
    all_goals simpa [Decl.refs] using ⟨d, hd'', hj⟩
  | case6 b => simp [declIds]
  | case2 b id | case3 b id | case4 b id =>
    intro b' hd hd'
    have h1 := hd id (by simp [Decl.refs])
    have h2 := hd' id (by simp [Decl.refs])
    rw [declIds, declIds, if_pos h1, if_pos h2]

/-- What the walk reaches under a declaration whose records are in the arena stays the same as
the arena grows. -/
theorem declIds_size_grow (hord : Ordered R) (hg : Grows R R') {d : Decl}
    (hd : ∀ j ∈ d.refs, j < R.size) : declIds R' R'.size d = declIds R R.size d := by
  rw [declIds_bound R'.size d R.size (fun j hj => Nat.lt_of_lt_of_le (hd j hj) hg.size_le) hd,
    declIds_grow hord hg R.size d hd]

open List in
theorem perm_flatMap_append {α β : Type} (l : List α) (f g h : α → List β)
    (hfgh : ∀ a ∈ l, (f a).Perm (g a ++ h a)) :
    (l.flatMap f).Perm (l.flatMap g ++ l.flatMap h) := by
  induction l with
  | nil => simp
  | cons a l ih =>
    have ha := hfgh a (by simp)
    have hl := ih fun a' ha' => hfgh a' (by simp [ha'])
    simp only [List.flatMap_cons]
    calc f a ++ l.flatMap f ~ (g a ++ h a) ++ (l.flatMap g ++ l.flatMap h) := ha.append hl
      _ = g a ++ (h a ++ (l.flatMap g ++ l.flatMap h)) := by simp
      _ ~ g a ++ (l.flatMap g ++ (h a ++ l.flatMap h)) :=
        (List.perm_append_comm_assoc _ _ _).append_left _
      _ = (g a ++ l.flatMap g) ++ (h a ++ l.flatMap h) := by simp

/-- **Below a record, member records first and body records after.** The declaration walk under
a record's members reaches the same records as the walk below a record defined in a body, which
takes the member records first and then the records defined in the member bodies (as the
lowering clones those bodies under the record's node). -/
theorem memberIds_perm (hord : Ordered R)
    (hmem : ∀ i (h : i < R.size), ∀ d ∈ R[i].members, d.IsMember) :
    ∀ i, (memberIds R i).Perm (nestedIds R i ++ bodyIds R (OfTree.localRecordBodies R i)) := by
  intro i
  induction i using Nat.strongRecOn with
  | _ i ih =>
    rw [memberIds, nestedIds, OfTree.localRecordBodies]
    cases hr : R[i]? with
    | none => simp
    | some r =>
      obtain ⟨hi, rfl⟩ := Array.getElem?_eq_some_iff.mp hr
      simp only [bodyIds_flatMap]
      refine perm_flatMap_append _ _ _ _ fun d hd => ?_
      have hbelow := (hord i hi).members d hd
      cases d with
      | function fn =>
        cases hb : fn.body <;> simp [declIds, hb, bodyIds_cons, NodeKind.recordId?]
      | scope _ _ | other => exact (hmem i hi _ hd).elim
      | record j =>
        have hj : j < i := hbelow j (by simp [Decl.refs])
        have hjs : j < R.size := Nat.lt_trans hj hi
        have hrj : R[j]? = some R[j] := Array.getElem?_eq_getElem hjs
        rw [declIds_record_of_lt hj hrj]
        simp only [hj, hjs, and_self, if_true, List.cons_append]
        refine List.Perm.cons j ?_
        have := ih j hj
        rwa [memberIds, hrj] at this

end Arena

/-- The index of the record a dispatch hands over, if it is one. -/
def Visit.recordId? : Visit → Option Nat
  | .record id _ => some id
  | .function _ => none

@[simp] theorem Visit.recordId?_record (id : Nat) (r : Record) :
    (Visit.record id r).recordId? = some id := rfl
@[simp] theorem Visit.recordId?_function (f : Function) : (Visit.function f).recordId? = none :=
  rfl

theorem flatMap_attach_congr {α β : Type} {l : List α} {f : {x // x ∈ l} → List β}
    {g : α → List β} (h : ∀ x (hx : x ∈ l), f ⟨x, hx⟩ = g x) : l.attach.flatMap f = l.flatMap g := by
  rw [List.flatMap_subtype h, List.unattach_attach]

theorem all_congr_of_mem {α : Type} {l : List α} {f g : α → Bool} (h : ∀ a ∈ l, f a = g a) :
    l.all f = l.all g := by
  induction l with
  | nil => rfl
  | cons a l ih => simp [h a (by simp), ih fun b hb => h b (by simp [hb])]

theorem any_congr_of_mem {α : Type} {l : List α} {f g : α → Bool} (h : ∀ a ∈ l, f a = g a) :
    l.any f = l.any g := by
  induction l with
  | nil => rfl
  | cons a l ih => simp [h a (by simp), ih fun b hb => h b (by simp [hb])]

/-- **A unit in lowering order.** Every record index its declarations mention names a record,
and each record's bases and members mention only records before it; so the base graph and the
membership graph go strictly down. -/
structure Outline.Ordered (u : Outline) : Prop where
  decls : ∀ d ∈ u.decls, ∀ j ∈ d.refs, j < u.records.size
  records : Arena.Ordered u.records

namespace Outline

/-- Record `i` has record `j` among its members. -/
def MemberEdge (u : Outline) (i j : Nat) : Prop :=
  ∃ r, u.record? i = some r ∧ Decl.record j ∈ r.members

variable {u : Outline}

theorem record?_eq_getElem? (u : Outline) (i : Nat) : u.record? i = u.records[i]? := rfl

/-- A path along edges that go down ends below where it starts. -/
theorem transGen_lt {E : Nat → Nat → Prop} (hE : ∀ i j, E i j → j < i) {i j : Nat}
    (h : Relation.TransGen E i j) : j < i := by
  induction h with
  | single hij => exact hE _ _ hij
  | tail _ hjk ih => exact Nat.lt_trans (hE _ _ hjk) ih

theorem Ordered.baseEdge_lt (h : Arena.Ordered u.records) {i j : Nat} (he : u.BaseEdge i j) :
    j < i := by
  obtain ⟨r, hr, b, hb, hres⟩ := he
  obtain ⟨hi, rfl⟩ := Array.getElem?_eq_some_iff.mp hr
  exact (h i hi).bases b hb j (resolve_eq_some hres).1

theorem Ordered.memberEdge_lt (h : Arena.Ordered u.records) {i j : Nat} (he : u.MemberEdge i j) :
    j < i := by
  obtain ⟨r, hr, hj⟩ := he
  obtain ⟨hi, rfl⟩ := Array.getElem?_eq_some_iff.mp hr
  exact (h i hi).members _ hj j (by simp [Decl.refs])

/-! ### The walk's guard never fires on an ordered unit -/

theorem nestedVisits_recordId? (hord : Arena.Ordered u.records) :
    ∀ i rem r, u.record? i = some r → (∀ j < i, j ∈ rem) →
      (u.nestedVisits rem r).filterMap Visit.recordId? = Arena.nestedIds u.records i := by
  intro i
  induction i using Nat.strongRecOn with
  | _ i ih =>
    intro rem r hr hrem
    obtain ⟨hi, rfl⟩ := Array.getElem?_eq_some_iff.mp hr
    rw [nestedVisits, Arena.nestedIds, ← record?_eq_getElem?, hr, List.filterMap_flatMap]
    refine flatMap_attach_congr fun d hd => ?_
    cases d with
    | record j =>
      have hj : j < i := (hord i hi).members _ hd j (by simp [Decl.refs])
      simp only [hj, true_and]
      by_cases hjs : j < u.records.size
      · have hrj : u.record? j = some u.records[j] := Array.getElem?_eq_getElem hjs
        have hjrem : j ∈ rem := hrem j hj
        simp only [hrj, hjrem, dite_true, List.filterMap_cons, Visit.recordId?_record, hjs,
          if_true]
        rw [ih j hj (rem.erase j) _ hrj fun k hk =>
          (List.mem_erase_of_ne (Nat.ne_of_lt hk)).mpr (hrem k (Nat.lt_trans hk hj))]
      · have hrj : u.record? j = none := by simp [record?, hjs]
        simp [hrj, hjs]
    | function _ | scope _ _ | other => rfl

theorem localVisits_recordId? (hord : Arena.Ordered u.records) (body : List Node) :
    (u.localVisits body).filterMap Visit.recordId? = Arena.bodyIds u.records body := by
  rw [localVisits, List.filterMap_flatMap, Arena.bodyIds]
  refine List.flatMap_congr fun id _ => ?_
  by_cases hid : id < u.records.size
  · have hr : u.record? id = some u.records[id] := Array.getElem?_eq_getElem hid
    simp only [hr, List.filterMap_cons, Visit.recordId?_record, Arena.localIds, hid, if_true]
    rw [nestedVisits_recordId? hord id _ _ hr fun j hj =>
      (List.mem_erase_of_ne (Nat.ne_of_lt hj)).mpr (List.mem_range.mpr (Nat.lt_trans hj hid))]
  · have hr : u.record? id = none := by simp [record?, hid]
    simp [hr, Arena.localIds, hid]

/-- On an ordered unit the walk under a declaration reaches the records `declIds` lists, as long
as its guard still allows every record below the bound. -/
theorem visitsAvoiding_recordId? (hord : Arena.Ordered u.records) (rem : List Nat) (d : Decl) :
    ∀ b, (∀ j < b, j < u.records.size → j ∈ rem) → (∀ j ∈ d.refs, j < b) →
      (u.visitsAvoiding rem d).filterMap Visit.recordId? = Arena.declIds u.records b d := by
  induction rem, d using Outline.visitsAvoiding.induct (u := u) with
  | case1 rem f =>
    intro b _ _
    rw [visitsAvoiding, Arena.declIds, List.filterMap_cons, Visit.recordId?_function]
    cases hb : f.body <;> simp [localVisits_recordId? hord]
  | case2 rem id hnone =>
    intro b _ hd
    have hb : id < b := hd id (by simp [Decl.refs])
    rw [visitsAvoiding, hnone, Arena.declIds, if_pos hb, ← record?_eq_getElem?, hnone]
    rfl
  | case3 rem id r hr hid ih =>
    intro b hrem hd
    have hb : id < b := hd id (by simp [Decl.refs])
    obtain ⟨hlt, rfl⟩ := Array.getElem?_eq_some_iff.mp hr
    rw [visitsAvoiding, hr, Arena.declIds_record_of_lt hb hr]
    simp only [hid, dite_true, List.filterMap_cons, Visit.recordId?_record,
      List.filterMap_flatMap, List.cons.injEq, true_and]
    refine List.flatMap_congr fun d hd' => ih d id (fun j hj hjs => ?_) fun j hj => ?_
    · exact (List.mem_erase_of_ne (Nat.ne_of_lt hj)).mpr (hrem j (Nat.lt_trans hj hb) hjs)
    · exact (hord id hlt).members d hd' j hj
  | case4 rem id r hr hid =>
    intro b hrem hd
    have hb : id < b := hd id (by simp [Decl.refs])
    exact absurd (hrem id hb (lt_of_record?_eq_some hr)) hid
  | case5 rem name ds ih =>
    intro b hrem hd
    rw [visitsAvoiding, Arena.declIds, List.filterMap_flatMap]
    refine flatMap_attach_congr fun d hd' => ih d hd' b hrem fun j hj => hd j ?_
    simpa [Decl.refs] using ⟨d, hd', hj⟩
  | case6 rem => simp [visitsAvoiding, Arena.declIds]

/-- **On an ordered unit the walk reaches the records `declIds` lists**, in that order: its
guard never stops it. -/
theorem visits_recordId? (h : u.Ordered) :
    u.visits.filterMap Visit.recordId? = u.decls.flatMap (Arena.declIds u.records u.records.size) := by
  rw [visits, List.filterMap_flatMap]
  refine List.flatMap_congr fun d hd => visitsAvoiding_recordId? h.records _ d _
    (fun j _ hj => List.mem_range.mpr hj) (h.decls d hd)

/-! ### The queries' guards never fire on an ordered unit -/

/-- Emptiness searched with any guard that still allows every record up to `id` is the same. -/
theorem emptyAvoiding_congr (hord : Arena.Ordered u.records) :
    ∀ id rem rem', (∀ k ≤ id, k < u.records.size → k ∈ rem) →
      (∀ k ≤ id, k < u.records.size → k ∈ rem') → u.emptyAvoiding rem id = u.emptyAvoiding rem' id := by
  intro id
  induction id using Nat.strongRecOn with
  | _ id ih =>
    intro rem rem' hrem hrem'
    rw [emptyAvoiding, emptyAvoiding]
    cases hr : u.record? id with
    | none => rfl
    | some r =>
      have hid := lt_of_record?_eq_some hr
      obtain ⟨-, rfl⟩ := Array.getElem?_eq_some_iff.mp hr
      simp only [hrem id (Nat.le_refl _) hid, hrem' id (Nat.le_refl _) hid, dite_true]
      congr 1
      refine all_congr_of_mem fun b hb => ?_
      cases hres : u.resolve b with
      | none => rfl
      | some j =>
        obtain ⟨htype, hjs⟩ := resolve_eq_some hres
        have hj : j < id := (hord id hid).bases b hb j htype
        simp only
        rw [ih j hj (rem.erase id) (rem'.erase id)
          (fun k hk hks => (List.mem_erase_of_ne (by omega)).mpr (hrem k (by omega) hks))
          (fun k hk hks => (List.mem_erase_of_ne (by omega)).mpr (hrem' k (by omega) hks))]

/-- Virtuality searched with any guard that still allows every record up to `id` is the same. -/
theorem virtualAvoiding_congr (hord : Arena.Ordered u.records) :
    ∀ id rem rem', (∀ k ≤ id, k < u.records.size → k ∈ rem) →
      (∀ k ≤ id, k < u.records.size → k ∈ rem') →
      u.virtualAvoiding rem id = u.virtualAvoiding rem' id := by
  intro id
  induction id using Nat.strongRecOn with
  | _ id ih =>
    intro rem rem' hrem hrem'
    rw [virtualAvoiding, virtualAvoiding]
    cases hr : u.record? id with
    | none => rfl
    | some r =>
      have hid := lt_of_record?_eq_some hr
      obtain ⟨-, rfl⟩ := Array.getElem?_eq_some_iff.mp hr
      simp only [hrem id (Nat.le_refl _) hid, hrem' id (Nat.le_refl _) hid, dite_true]
      congr 1
      refine any_congr_of_mem fun b hb => ?_
      cases hres : u.resolve b with
      | none => rfl
      | some j =>
        obtain ⟨htype, hjs⟩ := resolve_eq_some hres
        have hj : j < id := (hord id hid).bases b hb j htype
        simp only
        rw [ih j hj (rem.erase id) (rem'.erase id)
          (fun k hk hks => (List.mem_erase_of_ne (by omega)).mpr (hrem k (by omega) hks))
          (fun k hk hks => (List.mem_erase_of_ne (by omega)).mpr (hrem' k (by omega) hks))]

/-- **Emptiness is the plain recursion** on an ordered unit: a record is empty when it exists,
has no member of its own, and every base is non-virtual and empty, a base naming no record
counting as empty. -/
theorem isEmptyRecord_eq (hord : Arena.Ordered u.records) (id : Nat) :
    u.isEmptyRecord id =
      match u.record? id with
      | none => false
      | some r => r.hasNoOwnMembers && r.bases.all fun b =>
          !b.isVirtual && match u.resolve b with
            | some j => u.isEmptyRecord j
            | none => true := by
  rw [isEmptyRecord, emptyAvoiding]
  cases hr : u.record? id with
  | none => rfl
  | some r =>
    have hid := lt_of_record?_eq_some hr
    simp only [List.mem_range.mpr hid, dite_true]
    congr 1
    refine all_congr_of_mem fun b hb => ?_
    cases hres : u.resolve b with
    | none => rfl
    | some j =>
      simp only [isEmptyRecord]
      -- the base is below the record, so the search below it never meets the record again
      obtain ⟨htype, -⟩ := resolve_eq_some hres
      obtain ⟨_, hrr⟩ := Array.getElem?_eq_some_iff.mp hr
      have hj : j < id := (hord id hid).bases b (hrr ▸ hb) j htype
      rw [emptyAvoiding_congr hord j _ _
        (fun k hk hks => (List.mem_erase_of_ne (by omega)).mpr (List.mem_range.mpr hks))
        (fun k _ hks => List.mem_range.mpr hks)]

/-- **Virtuality is the plain recursion** on an ordered unit: a record has a virtual destructor
when it declares one or some base naming a record has one. -/
theorem hasVirtualDestructor_eq (hord : Arena.Ordered u.records) (id : Nat) :
    u.hasVirtualDestructor id =
      match u.record? id with
      | none => false
      | some r => (r.destructor.map (·.isVirtual)).getD false || r.bases.any fun b =>
          match u.resolve b with
          | some j => u.hasVirtualDestructor j
          | none => false := by
  rw [hasVirtualDestructor, virtualAvoiding]
  cases hr : u.record? id with
  | none => rfl
  | some r =>
    have hid := lt_of_record?_eq_some hr
    simp only [List.mem_range.mpr hid, dite_true]
    congr 1
    refine any_congr_of_mem fun b hb => ?_
    cases hres : u.resolve b with
    | none => rfl
    | some j =>
      simp only [hasVirtualDestructor]
      -- the base is below the record, so the search below it never meets the record again
      obtain ⟨htype, -⟩ := resolve_eq_some hres
      obtain ⟨_, hrr⟩ := Array.getElem?_eq_some_iff.mp hr
      have hj : j < id := (hord id hid).bases b (hrr ▸ hb) j htype
      rw [virtualAvoiding_congr hord j _ _
        (fun k hk hks => (List.mem_erase_of_ne (by omega)).mpr (List.mem_range.mpr hks))
        (fun k _ hks => List.mem_range.mpr hks)]

end Outline

end SourceAudit
