import SourceAudit.Proofs.RecordIndex
import SourceAudit.Proofs.Lowering
/-!
# Bases of a lowered unit resolve where their record began

A record's bases are looked up against the progress its lowering starts from: the records
finished before it, the index built from them, and the scope and template parameters in effect.
The lowering goes on from there, pushing the record's members, then the record itself, and
later records after it; but it only ever adds records and keys at the end. So the progress the
record started from stays a prefix of every later one, and of the progress the lowering ends
in, and the record's bases can be read against it at the end as well.

* `Progress.Later`: a progress comes after another: the arena and the key history only grew,
  and every record pushed in between had its bases resolved at an indexed prefix taken before
  it (`ResolvedAt`).
* `Advances`: a lowering step keeps the index right, keeps the progress sound, and leaves a
  progress that comes after the one it started from.
* `advancesClosed`: the plumbing keeps that (`StepClosed`), and so does a record, which reads
  its bases against the progress it starts from; so every lowering function advances, at every
  fuel.
* **`Outline.ofTree_bases_resolve`**: every base of a lowered unit resolves as
  `Progress.Resolves` says, at the progress its record was lowered from.
-/

namespace SourceAudit.OfTree

open Syntax

/-- An array grown at its end agrees with what it grew from below its old size. -/
theorem getElem?_of_prefix {α : Type} {A B : Array α} (h : A.toList <+: B.toList) {i : Nat}
    (hi : i < A.size) : B[i]? = A[i]? := by
  obtain ⟨t, ht⟩ := h
  rw [← Array.getElem?_toList, ← Array.getElem?_toList, ← ht,
    List.getElem?_append_left (by simpa using hi)]

/-- Record `r` at index `i` of progress `P` had its bases resolved at an indexed progress `q`
taken before it: the arena and the key history of `q` are prefixes of `P`'s that end before
`i`, and each base is what `q`'s lookup gives for a class name of one base clause. -/
def ResolvedAt (f : Facts) (P : Progress) (i : Nat) (r : Record) : Prop :=
  ∃ q : Progress, q.Indexed ∧ q.records.size ≤ i ∧ q.records.toList <+: P.records.toList ∧
    q.keys.toList <+: P.keys.toList ∧
    ∃ clause : Tree, ∀ b ∈ r.bases, ∃ ty ∈ clause.children, b.type = baseType f q ty

namespace ResolvedAt

variable {f : Facts} {P P' : Progress} {i : Nat} {r : Record}

/-- Resolution against a prefix survives growing the progress. -/
theorem mono (h : ResolvedAt f P i r) (hr : P.records.toList <+: P'.records.toList)
    (hk : P.keys.toList <+: P'.keys.toList) : ResolvedAt f P' i r := by
  obtain ⟨q, hq, hi, hqr, hqk, hb⟩ := h
  exact ⟨q, hq, hi, hqr.trans hr, hqk.trans hk, hb⟩

/-- A record without bases is resolved against the empty progress. -/
theorem of_bases_nil (h : r.bases = []) : ResolvedAt f P i r := by
  refine ⟨{}, Progress.indexed_empty, Nat.zero_le i, List.nil_prefix, List.nil_prefix, default, ?_⟩
  intro b hb
  rw [h] at hb
  exact absurd hb List.not_mem_nil

end ResolvedAt

/-- Progress `p'` comes after `p`: the arena and the key history only grew, and every record
pushed in between had its bases resolved before it. -/
structure Progress.Later (f : Facts) (p p' : Progress) : Prop where
  records : p.records.toList <+: p'.records.toList
  keys : p.keys.toList <+: p'.keys.toList
  resolved : ∀ i r, p.records.size ≤ i → p'.records[i]? = some r → ResolvedAt f p' i r

namespace Progress.Later

variable {f : Facts} {p p' p'' : Progress}

theorem size_le (h : Later f p p') : p.records.size ≤ p'.records.size := by
  simpa using h.records.length_le

/-- A step that leaves the arena and the key history as they were. -/
theorem of_frame (hr : p'.records = p.records) (hk : p'.keys = p.keys) : Later f p p' := by
  refine ⟨by rw [hr], by rw [hk], fun i r hi h => ?_⟩
  rw [hr, Array.getElem?_eq_none hi] at h
  cases h

theorem refl (f : Facts) (p : Progress) : Later f p p := of_frame rfl rfl

theorem trans (h₁ : Later f p p') (h₂ : Later f p' p'') : Later f p p'' := by
  refine ⟨h₁.records.trans h₂.records, h₁.keys.trans h₂.keys, fun i r hi hr => ?_⟩
  by_cases hi' : i < p'.records.size
  · -- pushed before `p'`: resolved against a prefix of `p'`, hence of `p''`
    have hr' : p'.records[i]? = some r := by rw [← getElem?_of_prefix h₂.records hi', hr]
    exact (h₁.resolved i r hi hr').mono h₂.records h₂.keys
  · exact h₂.resolved i r (Nat.le_of_not_lt hi') hr

/-- **A push comes after**, when the pushed record's bases were resolved before it. -/
theorem push {r : Record} {key : Option String} (h : ResolvedAt f p p.records.size r) :
    Later f p (pushRecord r key f p).2 := by
  rw [pushRecord_run]
  have hr : p.records.toList <+: (p.records.push r).toList := by
    rw [Array.toList_push]
    exact List.prefix_append _ _
  have hk : p.keys.toList <+: (p.keys.push key).toList := by
    rw [Array.toList_push]
    exact List.prefix_append _ _
  refine ⟨hr, hk, fun i r' hi h' => ?_⟩
  -- the only record past the old arena is the pushed one
  rw [Array.getElem?_push] at h'
  split at h'
  · rename_i hieq
    subst hieq
    cases h'
    exact h.mono hr hk
  · rw [Array.getElem?_eq_none hi] at h'
    cases h'

/-- Read as a run from `p`: reading the facts or the progress leaves `p` where it is. -/
theorem read_bind {β : Type} {k : Facts → Lower β} (h : Later f p ((k f) f p).2) :
    Later f p ((read >>= k) f p).2 := h

theorem get_bind {β : Type} {k : Progress → Lower β} (h : Later f p ((k p) f p).2) :
    Later f p ((get >>= k) f p).2 := h

/-- **A record pushed after its members.** A step that comes after `p` and returns a record
whose bases were read against `p`, followed by the push of that record, comes after `p`. -/
theorem push_after {x : Lower Record} {key : Option String} (hx : Later f p (x f p).2)
    (hi : p.Indexed)
    (hb : ∃ clause : Tree, ∀ b ∈ (x f p).1.bases, ∃ ty ∈ clause.children, b.type = baseType f p ty) :
    Later f p ((x >>= fun r => pushRecord r key) f p).2 :=
  hx.trans (push ⟨p, hi, hx.size_le, hx.records, hx.keys, hb⟩)

end Progress.Later

/-- Step `x` **advances** the lowering: it keeps the index right and the progress sound, and from
every sound progress whose index is right it leaves one that comes after it. -/
structure Advances {α : Type} (x : Lower α) : Prop where
  keeps : Keeps x
  sound : ∀ f p, Progress.Sound p → Progress.Sound (x f p).2
  later : ∀ f p, Progress.Sound p → Progress.Indexed p → Progress.Later f p (x f p).2

namespace Advances

variable {α β : Type}

theorem pure (a : α) : Advances (Pure.pure a : Lower α) :=
  ⟨Keeps.pure a, fun _ _ hs => hs, fun f p _ _ => Progress.Later.refl f p⟩

theorem bind {x : Lower α} {k : α → Lower β} (hx : Advances x) (hk : ∀ a, Advances (k a)) :
    Advances (x >>= k) where
  keeps := Keeps.bind hx.keeps fun a => (hk a).keeps
  sound f p hs := (hk _).sound f _ (hx.sound f p hs)
  later f p hs hi := (hx.later f p hs hi).trans ((hk _).later f _ (hx.sound f p hs) (hx.keeps f p hi))

theorem read_bind {k : Facts → Lower β} (hk : ∀ a, Advances (k a)) : Advances (read >>= k) :=
  ⟨Keeps.read_bind fun a => (hk a).keeps, fun f p hs => (hk f).sound f p hs,
    fun f p hs hi => (hk f).later f p hs hi⟩

theorem get_bind {k : Progress → Lower β} (hk : ∀ a, Advances (k a)) : Advances (get >>= k) :=
  ⟨Keeps.get_bind fun a => (hk a).keeps, fun f p hs => (hk p).sound f p hs,
    fun f p hs hi => (hk p).later f p hs hi⟩

/-- Bookkeeping of scopes, templates and locals leaves the arena, the index and the history. -/
theorem modify {g : Progress → Progress} (hg : ∀ p, (g p).records = p.records ∧
    (g p).index = p.index ∧ (g p).keys = p.keys) : Advances (modify g : Lower Unit) where
  keeps := Keeps.modify hg
  sound _ p hs := hs.congr (hg p).1 (hg p).2.1
  later _ p _ _ := Progress.Later.of_frame (hg p).1 (hg p).2.2

end Advances

namespace Progress.Later

variable {f : Facts} {p : Progress}

/-- **A record pushed after its members.** Entering the record's scope, lowering its members,
which keep its bases, and leaving the scope comes after `p`; the record is then pushed with
the bases it read against `p`. -/
theorem push_after_members {L : Lower Record} {g₁ g₂ : Progress → Progress} {key : Option String}
    {record : Record}
    (hg₁ : ∀ p, (g₁ p).records = p.records ∧ (g₁ p).index = p.index ∧ (g₁ p).keys = p.keys)
    (hg₂ : ∀ p, (g₂ p).records = p.records ∧ (g₂ p).index = p.index ∧ (g₂ p).keys = p.keys)
    (hL : Advances L) (hLb : ∀ f p, p.Sound → (L f p).1.bases = record.bases)
    (hs : p.Sound) (hi : p.Indexed)
    (hb : ∃ clause : Tree, ∀ b ∈ record.bases, ∃ ty ∈ clause.children, b.type = baseType f p ty) :
    Later f p ((modify g₁ >>= fun _ => L >>= fun r => modify g₂ >>= fun _ =>
      Pure.pure r >>= fun record => pushRecord record key) f p).2 := by
  have hs₁ : (g₁ p).Sound := hs.congr (hg₁ p).1 (hg₁ p).2.1
  have hi₁ : (g₁ p).Indexed := hi.congr (hg₁ p).1 (hg₁ p).2.1 (hg₁ p).2.2
  have h₁ : Later f p (g₁ p) := of_frame (hg₁ p).1 (hg₁ p).2.2
  have h₂ : Later f (g₁ p) (L f (g₁ p)).2 := hL.later f _ hs₁ hi₁
  have h₃ : Later f (L f (g₁ p)).2 (g₂ (L f (g₁ p)).2) :=
    of_frame (hg₂ _).1 (hg₂ _).2.2
  have h₁₃ := h₁.trans (h₂.trans h₃)
  -- the members keep the bases read against `p`
  have hb' : ∃ clause : Tree, ∀ b ∈ (L f (g₁ p)).1.bases, ∃ ty ∈ clause.children,
      b.type = baseType f p ty := by
    rw [hLb f _ hs₁]
    exact hb
  exact h₁₃.trans (push ⟨p, hi, h₁₃.size_le, h₁₃.records, h₁₃.keys, hb'⟩)

end Progress.Later

/-- **Advancing is kept by the plumbing and by a record**: out of fuel a record is pushed with no
bases; with fuel it reads its bases against the progress it starts from, lowers its members in
its own scope, and is pushed with the bases it read. -/
theorem advancesClosed : StepClosed Advances where
  pure := Advances.pure
  bind := Advances.bind
  read_bind := Advances.read_bind
  get_bind := Advances.get_bind
  modify := Advances.modify
  record_zero t q := by
    refine ⟨(indexKept 0).record t q, fun f p hs => ((lowers 0).record t q f p hs).1, ?_⟩
    intro f p _ _
    rw [lowerRecord.eq_1]
    exact Progress.Later.push (ResolvedAt.of_bases_nil rfl)
  record_succ n t q hm := by
    refine ⟨(indexKept (n + 1)).record t q, fun f p hs => ((lowers (n + 1)).record t q f p hs).1,
      ?_⟩
    intro f p hs hi
    rw [lowerRecord.eq_2]
    refine Progress.Later.read_bind (Progress.Later.get_bind ?_)
    dsimp only
    cases hbody : t.field? "body"
    case' some b =>
      -- the members are lowered in the record's scope, then the record is pushed
      refine Progress.Later.push_after_members (fun _ => ⟨rfl, rfl, rfl⟩)
        (fun _ => ⟨rfl, rfl, rfl⟩) (hm _ _ _) (fun f p hs => ((lowers n).members _ _ _ f p hs).2.2.1)
        hs hi ?_
    case' none => refine Progress.Later.push_after (Progress.Later.refl f p) hi ?_
    -- either way the bases were read against `p` from the record's base clause, if it has one
    all_goals
      split
      · exact ⟨_, fun b hb => mem_lowerBases hb⟩
      · exact ⟨default, fun b hb => absurd hb List.not_mem_nil⟩

/-- The lowering of a file's items from the empty progress ends in an indexed progress that
comes after the empty one: every record of its arena had its bases resolved before it. -/
theorem run_top_later {fuel : Nat} {facts : Facts} {items : List Tree} {dss : List (List Decl)}
    {p : Progress} (h : ((items.mapM fun c => lowerTop fuel c).run facts).run {} = (dss, p)) :
    p.Indexed ∧ Progress.Later facts {} p := by
  have hadv := advancesClosed.mapM (advancesClosed.allSteps fuel).top items
  have hrun : (items.mapM fun c => lowerTop fuel c) facts {} = (dss, p) := h
  have hi := hadv.keeps facts {} Progress.indexed_empty
  have hl := hadv.later facts {} Progress.sound_empty Progress.indexed_empty
  rw [hrun] at hi hl
  exact ⟨hi, hl⟩

end SourceAudit.OfTree

namespace SourceAudit.Outline

open OfTree Syntax

/-- **Bases resolve where their record began.** Whatever the tree, each record of the lowered
unit was lowered from an indexed progress `q`: its arena is the unit's records up to an index at
most the record's own, and its key history a prefix of `keys`, the key each record of the unit
was offered to the index under (the history the lowering ends with, which the unit does not
keep). Each base of the record is what `q`'s lookup gives for a class name of one base clause,
so it resolves as `Progress.Resolves` says at `q`: a template parameter in `q`'s scope, the
preferred record of the key the name takes from `q`'s scope, or its own spelling. -/
theorem ofTree_bases_resolve (path : String) (src : ByteArray) (dialect : Dialect) (root : Tree) :
    let u := ofTree path src dialect root
    ∃ keys : Array (Option String), keys.size = u.records.size ∧
      ∀ i r, u.record? i = some r → ∃ q : Progress, q.Indexed ∧ q.records.size ≤ i ∧
        q.records.toList <+: u.records.toList ∧ q.keys.toList <+: keys.toList ∧
        ∃ clause : Tree, ∀ b ∈ r.bases, ∃ ty ∈ clause.children,
          q.Resolves (classPath src ty) (spelled src ty) b.type := by
  unfold ofTree
  dsimp only
  split
  rename_i dss p hrun
  obtain ⟨hi, hlater⟩ := run_top_later hrun
  refine ⟨p.keys, hi.size, fun i r hr => ?_⟩
  obtain ⟨q, hq, hsize, hqr, hqk, clause, hb⟩ := hlater.resolved i r (Nat.zero_le i) hr
  refine ⟨q, hq, hsize, hqr, hqk, clause, fun b hbm => ?_⟩
  -- each base is `q`'s lookup of a class name, which resolves as the index says
  obtain ⟨ty, hty, htype⟩ := hb b hbm
  exact ⟨ty, hty, htype ▸ Progress.baseType_resolves hq _ ty⟩

end SourceAudit.Outline
