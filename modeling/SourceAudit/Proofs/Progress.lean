import SourceAudit.Proofs.Arena
/-!
# Lowering steps that keep the arena in order

The lowering is a chain of steps over a `Progress`: the arena so far, the index of record keys,
and the scope bookkeeping of the enclosing namespaces, templates and bodies. A step **holds**
from a progress when it leaves a sound progress (the arena in order, every record member a
function or a record, every key naming a record of the arena), only pushes records, and its
result satisfies a postcondition in the arena it leaves. The rules here are what the proofs
about the lowering are assembled from; none of them looks inside a lowering function.

* `Holds.bind`, `Holds.pure`, `Holds.frame_bind`: sequencing, results, and the bookkeeping
  steps that leave the arena and the index alone.
* `View`, `View.Owns`: what a lowering result mentions and which records the walk reaches from
  it; **`View.Owns.append`** joins the results of two steps run one after the other.
* `Holds.enclosed`: a step between entering and leaving some bookkeeping.
* `Spec.mapM`, `Spec.foldlM`: a step run over the children of a node.
* `Holds.pushRecord`: pushing a record whose bases and members are already in the arena.
-/

namespace SourceAudit

/-- Adding a record below the arena's size keeps the arena in order. -/
theorem Arena.Ordered.push {R : Array Record} {r : Record} (h : Arena.Ordered R)
    (hr : r.Below R.size) : Arena.Ordered (R.push r) := by
  intro i hi
  rw [Array.getElem_push]
  split
  · exact h i ‹_›
  · have hi' : i = R.size := by
      rw [Array.size_push] at hi
      omega
    subst hi'
    exact hr

/-- Record `i` of arena `R` was lowered from index `s` on: the walk from it reaches the records
from `s` to `i`, each once, and its bases name only records pushed before `s`. -/
structure Arena.LoweredFrom (R : Array Record) (i s : Nat) : Prop where
  span : (Arena.declIds R R.size (.record i)).Perm (List.range' s (i + 1 - s))
  bases : ∀ r ∈ R[i]?, ∀ b ∈ r.bases, ∀ j, b.type = .record j → j < s

/-- Growing an ordered arena keeps what its records were lowered from. -/
theorem Arena.LoweredFrom.grow {R R' : Array Record} {i s : Nat} (h : Arena.LoweredFrom R i s)
    (hord : Arena.Ordered R) (hg : Arena.Grows R R') (hi : i < R.size) :
    Arena.LoweredFrom R' i s := by
  constructor
  · rw [Arena.declIds_size_grow hord hg (by simpa [Decl.refs] using hi)]
    exact h.span
  · rw [hg.getElem? hi]
    exact h.bases

namespace OfTree

/-- A progress the lowering can go on from: its arena is in order, every record member is a
function or a record, every key names a record of the arena, and every record was lowered from
some index on. -/
structure Progress.Sound (p : Progress) : Prop where
  ordered : Arena.Ordered p.records
  members : ∀ i (h : i < p.records.size), ∀ d ∈ p.records[i].members, d.IsMember
  index : ∀ e ∈ p.index, e.2 < p.records.size
  lowered : ∀ i < p.records.size, ∃ s, Arena.LoweredFrom p.records i s

/-- Only the arena and the index matter to soundness. -/
theorem Progress.Sound.congr {p q : Progress} (hp : p.Sound) (hr : q.records = p.records)
    (hi : q.index = p.index) : q.Sound := by
  obtain ⟨records, index, scope, templateParams, locals⟩ := p
  obtain ⟨records', index', scope', templateParams', locals'⟩ := q
  simp only at hr hi
  subst hr hi
  exact ⟨hp.ordered, hp.members, hp.index, hp.lowered⟩

theorem Progress.sound_empty : ({} : Progress).Sound :=
  ⟨fun _ h => absurd h (Nat.not_lt_zero _), fun _ h => absurd h (Nat.not_lt_zero _),
    fun _ h => absurd h List.not_mem_nil, fun _ h => absurd h (Nat.not_lt_zero _)⟩

variable {α β γ : Type} {f : Facts} {p : Progress}

/-- Run with facts `f` from `p`, step `x` leaves a sound progress whose arena extends `p`'s, and
its result and arena satisfy `post`. -/
def Holds (x : Lower α) (f : Facts) (p : Progress) (post : α → Array Record → Prop) : Prop :=
  (x f p).2.Sound ∧ Arena.Grows p.records (x f p).2.records ∧ post (x f p).1 (x f p).2.records

/-- Step `x` holds from every sound progress; its postcondition also reads the size of the
arena it started from. -/
def Spec (x : Lower α) (post : Nat → α → Array Record → Prop) : Prop :=
  ∀ f p, p.Sound → Holds x f p (post p.records.size)

/-- Step `x` leaves the arena and the index alone: it only keeps scopes, templates and locals. -/
def Frame (x : Lower α) : Prop :=
  ∀ f p, (x f p).2.records = p.records ∧ (x f p).2.index = p.index

namespace Holds

variable {post : α → Array Record → Prop}

theorem pure {a : α} (hp : p.Sound) (h : post a p.records) : Holds (Pure.pure a) f p post :=
  ⟨hp, Arena.Grows.refl _, h⟩

theorem bind {P : α → Array Record → Prop} {post : β → Array Record → Prop} {x : Lower α}
    {k : α → Lower β} (hx : Holds x f p P)
    (hk : ∀ a p', p'.Sound → Arena.Grows p.records p'.records → P a p'.records →
      Holds (k a) f p' post) :
    Holds (x >>= k) f p post := by
  obtain ⟨hs, hg, hP⟩ := hx
  obtain ⟨hs', hg', hpost⟩ := hk _ _ hs hg hP
  exact ⟨hs', hg.trans hg', hpost⟩

theorem imp {Q : α → Array Record → Prop} {x : Lower α} (h : Holds x f p post)
    (himp : ∀ a R, Arena.Grows p.records R → post a R → Q a R) : Holds x f p Q :=
  ⟨h.1, h.2.1, himp _ _ h.2.1 h.2.2⟩

theorem read_bind {k : Facts → Lower α} (h : Holds (k f) f p post) :
    Holds (read >>= k) f p post := h

theorem get_bind {k : Progress → Lower α} (h : Holds (k p) f p post) :
    Holds (get >>= k) f p post := h

theorem pure_bind {a : β} {k : β → Lower α} (h : Holds (k a) f p post) :
    Holds (Pure.pure a >>= k) f p post := h

theorem frame {x : Lower α} (hx : Frame x) (hp : p.Sound) (h : post (x f p).1 p.records) :
    Holds x f p post := by
  obtain ⟨hr, hi⟩ := hx f p
  refine ⟨hp.congr hr hi, ?_, ?_⟩
  · rw [hr]
    exact Arena.Grows.refl _
  · rw [hr]
    exact h

/-- A bookkeeping step followed by `k`: `k` starts from a sound progress with the same arena. -/
theorem frame_bind {post : β → Array Record → Prop} {x : Lower α} {k : α → Lower β}
    (hx : Frame x) (hp : p.Sound)
    (hk : ∀ a p', p'.Sound → p'.records = p.records → Holds (k a) f p' post) :
    Holds (x >>= k) f p post := by
  have hx' : Holds x f p fun _ R => R = p.records := frame hx hp rfl
  exact bind hx' fun a p' hp' _ hR => hk a p' hp' hR

/-- A step enclosed in bookkeeping, such as entering and leaving a scope, a template or a
body's locals, holds as the step alone does. -/
theorem enclosed {post : β → Array Record → Prop} {enter leave : Lower Unit} {x : Lower α}
    {k : α → Lower β} {Q : Nat → α → Array Record → Prop} (henter : Frame enter)
    (hleave : Frame leave) (hp : p.Sound) (hx : Spec x Q)
    (hk : ∀ a q, q.Sound → Arena.Grows p.records q.records → Q p.records.size a q.records →
      Holds (k a) f q post) :
    Holds (enter >>= fun _ => x >>= fun a => leave >>= fun _ => k a) f p post := by
  refine frame_bind henter hp fun _ p₁ hp₁ hR₁ => ?_
  refine bind (hx f p₁ hp₁) fun a q hq hg hQ => ?_
  refine frame_bind hleave hq fun _ q' hq' hR' => hk a q' hq' ?_ ?_
  · rw [hR', ← hR₁]
    exact hg
  · rw [hR', ← hR₁]
    exact hQ

end Holds

/-! ### What a lowering result owns -/

/-- What a kind of lowering result mentions (`refs`) and which records the walk reaches from it
in an arena (`ids`). Both go along with joining results, and what the walk reaches stays the
same as an ordered arena grows past the records the result mentions. -/
structure View (α : Type) where
  refs : List α → List Nat
  ids : Array Record → List α → List Nat
  refs_nil : refs [] = []
  ids_nil : ∀ R, ids R [] = []
  refs_append : ∀ xs ys, refs (xs ++ ys) = refs xs ++ refs ys
  ids_append : ∀ R xs ys, ids R (xs ++ ys) = ids R xs ++ ids R ys
  ids_grow : ∀ {R R' : Array Record}, Arena.Ordered R → Arena.Grows R R' →
    ∀ xs, (∀ j ∈ refs xs, j < R.size) → ids R' xs = ids R xs

/-- Declarations, walked with the arena's size as bound. -/
def View.decls : View Decl where
  refs ds := ds.flatMap Decl.refs
  ids R ds := ds.flatMap (Arena.declIds R R.size)
  refs_nil := rfl
  ids_nil _ := rfl
  refs_append _ _ := List.flatMap_append
  ids_append _ _ _ := List.flatMap_append
  ids_grow hord hg _ hds := List.flatMap_congr fun d hd =>
    Arena.declIds_size_grow hord hg fun j hj => hds j (List.mem_flatMap.mpr ⟨d, hd, hj⟩)

/-- Body nodes: the records defined in them and those the walk finds below those. -/
def View.nodes : View Node where
  refs := Outline.localRecordIds
  ids := Arena.bodyIds
  refs_nil := Outline.localRecordIds_nil
  ids_nil _ := Arena.bodyIds_nil
  refs_append := Outline.localRecordIds_append
  ids_append _ := Arena.bodyIds_append
  ids_grow _ hg _ hns := Arena.bodyIds_grow hg hns

/-- A lowering result `xs` whose records were pushed from index `s` on into `R`: every record it
mentions is in `R`, and the walk reaches from it each record from index `s` on exactly once. -/
structure View.Owns (v : View α) (s : Nat) (xs : List α) (R : Array Record) : Prop where
  lt : ∀ j ∈ v.refs xs, j < R.size
  perm : (v.ids R xs).Perm (List.range' s (R.size - s))

namespace View

variable (v : View α) {R R₁ R₂ : Array Record} {s : Nat} {xs ys : List α}

theorem owns_nil (R : Array Record) : v.Owns R.size [] R := by
  constructor
  · simp [v.refs_nil]
  · simp [v.ids_nil]

variable {v}

theorem Owns.congr {w : View β} {zs : List β} (hr : v.refs xs = w.refs zs)
    (hi : v.ids R xs = w.ids R zs) : v.Owns s xs R ↔ w.Owns s zs R :=
  ⟨fun h => ⟨hr ▸ h.lt, hi ▸ h.perm⟩, fun h => ⟨hr ▸ h.lt, hi ▸ h.perm⟩⟩

/-- **Results of two steps run one after the other own the records of both.** The first result
is walked the same in the grown arena, and the two runs of indices meet. -/
theorem Owns.append (h₁ : v.Owns s xs R₁) (h₂ : v.Owns R₁.size ys R₂)
    (hord : Arena.Ordered R₁) (hg : Arena.Grows R₁ R₂) (hs : s ≤ R₁.size) :
    v.Owns s (xs ++ ys) R₂ := by
  have hsize := hg.size_le
  constructor
  · intro j hj
    rw [v.refs_append, List.mem_append] at hj
    rcases hj with hj | hj
    · exact Nat.lt_of_lt_of_le (h₁.lt j hj) hsize
    · exact h₂.lt j hj
  · have hsplit : List.range' s (R₂.size - s) =
        List.range' s (R₁.size - s) ++ List.range' R₁.size (R₂.size - R₁.size) := by
      have := @List.range'_append_1 s (R₁.size - s) (R₂.size - R₁.size)
      have hsum : R₁.size - s + (R₂.size - R₁.size) = R₂.size - s := by omega
      rwa [Nat.add_sub_cancel' hs, hsum, eq_comm] at this
    rw [v.ids_append, v.ids_grow hord hg xs h₁.lt, hsplit]
    exact h₁.perm.append h₂.perm

/-- Results the walk finds nothing in may follow an owning result. -/
theorem Owns.append_inert (h : v.Owns s xs R) (hr : v.refs ys = []) (hi : v.ids R ys = []) :
    v.Owns s (xs ++ ys) R := by
  constructor
  · rw [v.refs_append, hr, List.append_nil]
    exact h.lt
  · rw [v.ids_append, hi, List.append_nil]
    exact h.perm

end View

/-! ### Steps over the children of a node -/

/-- A step over each child, each owning the records it pushes, owns them all in order. -/
theorem Spec.mapM (v : View α) {g : γ → Lower (List α)} (hg : ∀ c, Spec (g c) v.Owns) :
    ∀ l : List γ, Spec (l.mapM g) fun s xss R => v.Owns s xss.flatten R := by
  intro l
  induction l with
  | nil =>
    intro f p hp
    exact Holds.pure hp (v.owns_nil p.records)
  | cons c l ih =>
    intro f p hp
    rw [List.mapM_cons]
    refine Holds.bind (hg c f p hp) fun xs p₁ hp₁ hg₁ h₁ => ?_
    refine Holds.bind (ih f p₁ hp₁) fun xss p₂ hp₂ hg₂ h₂ => Holds.pure hp₂ ?_
    show v.Owns p.records.size (xs :: xss).flatten p₂.records
    rw [List.flatten_cons]
    exact h₁.append h₂ hp₁.ordered hg₂ hg₁.size_le

namespace Holds

/-- Results so far, followed by what a further step owns, own both. -/
theorem bind_append (v : View α) {x : Lower β} {g : β → List α} {s : Nat} {xs : List α}
    (hp : p.Sound) (hs : s ≤ p.records.size) (h : v.Owns s xs p.records)
    (hx : Holds x f p fun b R => v.Owns p.records.size (g b) R) :
    Holds (x >>= fun b => Pure.pure (xs ++ g b)) f p (v.Owns s) :=
  bind hx fun _ _ hp' hg h' => pure hp' (h.append h' hp.ordered hg hs)

/-- The results over the children, joined, own what the steps pushed. -/
theorem mapM_flatten (v : View α) {g : γ → Lower (List α)} (hg : ∀ c, Spec (g c) v.Owns)
    (l : List γ) (hp : p.Sound) :
    Holds (l.mapM g >>= fun xss => Pure.pure xss.flatten) f p (v.Owns p.records.size) :=
  bind (Spec.mapM v hg l f p hp) fun _ _ hp' _ h => pure hp' h

end Holds

/-- Record `r'` is `r` with members pushed from index `s` on into `R` added after its own: the
bases stay, and the new members are functions or records that own what they pushed. -/
def Extends (r : Record) (s : Nat) (r' : Record) (R : Array Record) : Prop :=
  r'.bases = r.bases ∧ ∃ new, r'.members = r.members ++ new ∧ (∀ d ∈ new, d.IsMember) ∧
    View.decls.Owns s new R

namespace Extends

variable {r r₁ r₂ : Record} {s : Nat} {R R₁ R₂ : Array Record}

theorem of_eq (hb : r'.bases = r.bases) (hm : r'.members = r.members)
    (h : View.decls.Owns s [] R) : Extends r s r' R :=
  ⟨hb, [], by rw [hm, List.append_nil], by simp, h⟩

theorem add (d : Decl) (hd : d.IsMember) (h : View.decls.Owns s [d] R) :
    Extends r s { r with members := r.members ++ [d] } R :=
  ⟨rfl, [d], rfl, by simpa using hd, h⟩

theorem trans (h₁ : Extends r s r₁ R₁) (h₂ : Extends r₁ R₁.size r₂ R₂)
    (hord : Arena.Ordered R₁) (hg : Arena.Grows R₁ R₂) (hs : s ≤ R₁.size) :
    Extends r s r₂ R₂ := by
  obtain ⟨hb₁, new₁, hm₁, hmem₁, hown₁⟩ := h₁
  obtain ⟨hb₂, new₂, hm₂, hmem₂, hown₂⟩ := h₂
  refine ⟨hb₂.trans hb₁, new₁ ++ new₂, by rw [hm₂, hm₁, List.append_assoc], ?_,
    hown₁.append hown₂ hord hg hs⟩
  intro d hd
  rcases List.mem_append.mp hd with hd | hd
  · exact hmem₁ d hd
  · exact hmem₂ d hd

end Extends

/-- Counting declarators changes neither the bases nor the members of a record. -/
theorem Extends.foldl_countDeclarator {r r₁ : Record} {s : Nat} {R : Array Record}
    (h : Extends r s r₁ R) (t : Syntax.Tree) (isStatic : Bool) (ds : List Syntax.Tree) :
    Extends r s (ds.foldl (countDeclarator t isStatic) r₁) R := by
  induction ds generalizing r₁ with
  | nil => exact h
  | cons d ds ih =>
    refine ih ?_
    obtain ⟨hb, new, hm, hmem, hown⟩ := h
    have hcount : (countDeclarator t isStatic r₁ d).bases = r₁.bases ∧
        (countDeclarator t isStatic r₁ d).members = r₁.members := by
      unfold countDeclarator
      split
      · dsimp only
        split <;> exact ⟨rfl, rfl⟩
      · split <;> exact ⟨rfl, rfl⟩
    exact ⟨hcount.1.trans hb, new, hcount.2.trans hm, hmem, hown⟩

/-- A step over each child, each adding members to the record, adds them all in order. -/
theorem Spec.foldlM {g : Record → γ → Lower Record} (hg : ∀ r c, Spec (g r c) (Extends r)) :
    ∀ (l : List γ) (r : Record), Spec (l.foldlM g r) (Extends r) := by
  intro l
  induction l with
  | nil =>
    intro r f p hp
    exact Holds.pure hp (Extends.of_eq rfl rfl (View.decls.owns_nil _))
  | cons c l ih =>
    intro r f p hp
    rw [List.foldlM_cons]
    refine Holds.bind (hg r c f p hp) fun r₁ p₁ hp₁ hg₁ h₁ => ?_
    exact (ih r₁ f p₁ hp₁).imp fun r₂ R₂ hg₂ h₂ => h₁.trans h₂ hp₁.ordered hg₂ hg₁.size_le

/-! ### Pushing a record -/

/-- Pushing a record whose bases and members mention only records of the arena, and that was
lowered from some index on: it gets the arena's size as index, the arena grows by it, and the
progress stays sound. -/
theorem Holds.pushRecord {r : Record} {key : Option String} {post : Nat → Array Record → Prop}
    (hp : p.Sound) (hr : r.Below p.records.size) (hm : ∀ d ∈ r.members, d.IsMember)
    (hl : ∃ s, Arena.LoweredFrom (p.records.push r) p.records.size s)
    (h : post p.records.size (p.records.push r)) : Holds (OfTree.pushRecord r key) f p post := by
  refine ⟨⟨hp.ordered.push hr, ?_, ?_, ?_⟩, Arena.Grows.push _ _, h⟩
  · show ∀ i (hi : i < (p.records.push r).size), ∀ d ∈ (p.records.push r)[i].members, d.IsMember
    intro i hi d hd
    rw [Array.getElem_push] at hd
    split at hd
    · exact hp.members i ‹_› d hd
    · exact hm d hd
  · -- the key, if indexed, names the new record; the other keys name older ones
    have hold : ∀ e ∈ p.index, e.2 < (p.records.push r).size := fun e he => by
      rw [Array.size_push]
      exact Nat.lt_succ_of_lt (hp.index e he)
    cases key with
    | none => exact hold
    | some k =>
      show ∀ e ∈ (if r.hasDefinition || (findKey p.index k).isNone then
        (k, p.records.size) :: p.index.filter (·.1 != k) else p.index), e.2 < (p.records.push r).size
      split
      · intro e he
        rcases List.mem_cons.mp he with rfl | he
        · simp
        · exact hold e (List.mem_of_mem_filter he)
      · exact hold
  · show ∀ i < (p.records.push r).size, ∃ s, Arena.LoweredFrom (p.records.push r) i s
    intro i hi
    rw [Array.size_push] at hi
    rcases Nat.lt_succ_iff_lt_or_eq.mp hi with hi | rfl
    · obtain ⟨s, hs⟩ := hp.lowered i hi
      exact ⟨s, hs.grow hp.ordered (Arena.Grows.push _ _) hi⟩
    · exact hl

/-- A record pushed after the members it owns owns them and itself. -/
theorem View.owns_push {s : Nat} {R : Array Record} {r : Record} (hord : Arena.Ordered R)
    (hr : r.Below R.size) (hs : s ≤ R.size) (h : View.decls.Owns s r.members R) :
    View.decls.Owns s [.record R.size] (R.push r) := by
  have hget : (R.push r)[R.size]? = some r := by simp
  have hg := Arena.Grows.push R r
  constructor
  · intro j hj
    simp only [View.decls, Decl.refs, List.flatMap_cons, List.flatMap_nil, List.append_nil,
      List.mem_singleton] at hj
    simp [hj]
  · -- the walk from the new record reaches it, then what its members reach in the old arena
    have hmembers : r.members.flatMap (Arena.declIds (R.push r) R.size) =
        r.members.flatMap (Arena.declIds R R.size) :=
      List.flatMap_congr fun d hd => Arena.declIds_grow hord hg R.size d fun j hj =>
        hr.members d hd j hj
    simp only [View.decls, List.flatMap_cons, List.flatMap_nil, List.append_nil]
    rw [Arena.declIds_record_of_lt (by simp) hget, hmembers, Array.size_push]
    have hrange : List.range' s (R.size + 1 - s) = List.range' s (R.size - s) ++ [R.size] := by
      have := @List.range'_append_1 s (R.size - s) 1
      rw [Nat.add_sub_cancel' hs] at this
      rw [show R.size + 1 - s = R.size - s + 1 by omega, ← this]
      rfl
    rw [hrange]
    exact (List.Perm.cons _ h.perm).trans (List.perm_append_singleton _ _).symm

/-- **Pushing a record after its members.** A record that started with no member, got its
members from index `s` on and its bases from an arena of size `s` at most, is pushed below the
arena's size and owns, with its members, every record from `s` on; so it was lowered from `s`
on. -/
theorem Holds.pushExtended {s : Nat} {key : Option String} {record r' : Record} (hp : p.Sound)
    (h : Extends record s r' p.records)
    (hbases : ∀ b ∈ record.bases, ∀ j, b.type = .record j → j < s) (hs : s ≤ p.records.size)
    (hnil : record.members = []) :
    Holds (OfTree.pushRecord r' key) f p fun id R => View.decls.Owns s [.record id] R := by
  obtain ⟨hb, new, hm, hmem, hown⟩ := h
  rw [hnil, List.nil_append] at hm
  rw [← hm] at hmem hown
  have hbelow : r'.Below p.records.size := by
    constructor
    · intro b hbm j hj
      rw [hb] at hbm
      exact Nat.lt_of_lt_of_le (hbases b hbm j hj) hs
    · intro d hd j hj
      exact hown.lt j (List.mem_flatMap.mpr ⟨d, hd, hj⟩)
  have hown' := View.owns_push hp.ordered hbelow hs hown
  have hlowered : Arena.LoweredFrom (p.records.push r') p.records.size s := by
    constructor
    · have hperm := hown'.perm
      simp only [View.decls, List.flatMap_cons, List.flatMap_nil, List.append_nil,
        Array.size_push] at hperm
      rw [Array.size_push]
      exact hperm
    · intro r hr b hbm j hj
      have hget : (p.records.push r')[p.records.size]? = some r' := by simp
      rw [hget, Option.mem_some_iff] at hr
      subst hr
      rw [hb] at hbm
      exact hbases b hbm j hj
  exact Holds.pushRecord hp hbelow hmem ⟨s, hlowered⟩ hown'

/-! ### Bases name records already in the arena -/

theorem findKey_lt {index : List (String × Nat)} {n : Nat} (hidx : ∀ e ∈ index, e.2 < n)
    {key : String} {j : Nat} (h : findKey index key = some j) : j < n := by
  obtain ⟨e, he, rfl⟩ := Option.map_eq_some_iff.mp h
  exact hidx e (List.mem_of_find?_eq_some he)

theorem lookupRecord_lt {index : List (String × Nat)} {n : Nat} (hidx : ∀ e ∈ index, e.2 < n)
    {scope : List String} {path : String} {j : Nat} (h : lookupRecord index scope path = some j) :
    j < n := by
  unfold lookupRecord at h
  split at h
  · exact findKey_lt hidx h
  · obtain ⟨depth, -, hdepth⟩ := List.exists_of_findSome?_eq_some h
    exact findKey_lt hidx hdepth

theorem baseType_lt (hp : p.Sound) {t : Syntax.Tree} {j : Nat} (h : baseType f p t = .record j) :
    j < p.records.size := by
  unfold baseType at h
  dsimp only at h
  split at h
  · cases h
  · split at h
    · cases h
      exact lookupRecord_lt hp.index ‹_›
    · cases h

/-- A base whose type names record `j` has `j < n`. -/
def BaseBelow (n : Nat) (b : Base) : Prop := ∀ j, b.type = .record j → j < n

theorem finishBase_below (hp : p.Sound) (tag : Tag) (pb : PendingBase) {done : List Base}
    (hdone : ∀ b ∈ done, BaseBelow p.records.size b) :
    ∀ b ∈ finishBase f p tag pb done, BaseBelow p.records.size b := by
  unfold finishBase
  split
  · intro b hb
    rcases List.mem_append.mp hb with hb | hb
    · exact hdone b hb
    · rw [List.mem_singleton] at hb
      subst hb
      exact fun j hj => baseType_lt hp hj
  · exact hdone

theorem baseStep_below (hp : p.Sound) (tag : Tag) (st : PendingBase × List Base) (c : Syntax.Tree)
    (hst : ∀ b ∈ st.2, BaseBelow p.records.size b) :
    ∀ b ∈ (baseStep f p tag st c).2, BaseBelow p.records.size b := by
  unfold baseStep
  split
  · exact hst
  · exact hst
  · exact finishBase_below hp tag st.1 hst
  · exact hst

/-- **The bases of a record name only records already in the arena.** -/
theorem lowerBases_lt (hp : p.Sound) (clause : Syntax.Tree) (tag : Tag) :
    ∀ b ∈ lowerBases f p clause tag, ∀ j, b.type = .record j → j < p.records.size := by
  have hfold : ∀ (cs : List Syntax.Tree) (st : PendingBase × List Base),
      (∀ b ∈ st.2, BaseBelow p.records.size b) →
      ∀ b ∈ (cs.foldl (baseStep f p tag) st).2, BaseBelow p.records.size b := by
    intro cs
    induction cs with
    | nil => exact fun _ hst => hst
    | cons c cs ih => exact fun st hst => ih _ (baseStep_below hp tag st c hst)
  unfold lowerBases
  exact finishBase_below hp tag _ (hfold _ _ fun _ h => absurd h List.not_mem_nil)

/-! ### What particular results own -/

/-- The walk finds no record under a declaration that mentions none. -/
theorem Arena.declIds_eq_nil {R : Array Record} : ∀ b d, d.refs = [] → Arena.declIds R b d = [] := by
  intro b d
  induction b, d using Arena.declIds.induct R with
  | case1 b fn =>
    intro h
    rw [Decl.refs] at h
    simp only [Arena.declIds, Arena.bodyIds]
    rw [h, List.flatMap_nil]
  | case2 b id | case3 b id | case4 b id => simp [Decl.refs]
  | case5 b name ds ih =>
    intro h
    rw [Decl.refs] at h
    simp only [Arena.declIds]
    exact List.flatMap_eq_nil_iff.mpr fun d hd => ih d hd (List.flatMap_eq_nil_iff.mp h d hd)
  | case6 b => simp [Arena.declIds]

namespace View

variable {s : Nat} {R : Array Record}

theorem owns_function_iff (fn : Function) :
    decls.Owns s [.function fn] R ↔ nodes.Owns s (fn.body.getD []) R :=
  Owns.congr (by simp [decls, nodes, Decl.refs]) (by simp [decls, nodes, Arena.declIds])

theorem owns_scope_iff (name : String) (ds : List Decl) :
    decls.Owns s [.scope name ds] R ↔ decls.Owns s ds R :=
  Owns.congr (by simp [decls, Decl.refs]) (by simp [decls, Arena.declIds])

/-- A node that is not a record owns what its children own. -/
theorem owns_node_iff {k : NodeKind} (hk : k.recordId? = none) (l : Location) (cs : List Node) :
    nodes.Owns s [Node.mk k l cs] R ↔ nodes.Owns s cs R :=
  Owns.congr (by simp [nodes, hk]) (by simp [nodes, Arena.bodyIds_cons, hk])

/-- Declarations that mention no record own nothing. -/
theorem owns_append_inert {ds extra : List Decl} (h : decls.Owns s ds R)
    (hextra : ∀ d ∈ extra, d.refs = []) : decls.Owns s (ds ++ extra) R :=
  h.append_inert (List.flatMap_eq_nil_iff.mpr hextra)
    (List.flatMap_eq_nil_iff.mpr fun d hd => Arena.declIds_eq_nil _ d (hextra d hd))

end View

/-- The bodies cloned below a local record define only records before it. -/
theorem localRecordIds_localRecordBodies {R : Array Record} (hord : Arena.Ordered R) :
    ∀ i, ∀ j ∈ Outline.localRecordIds (localRecordBodies R i), j < i := by
  intro i
  induction i using Nat.strongRecOn with
  | _ i ih =>
    intro j hj
    rw [localRecordBodies] at hj
    cases hr : R[i]? with
    | none => simp [hr] at hj
    | some r =>
      rw [hr] at hj
      obtain ⟨hi, hri⟩ := Array.getElem?_eq_some_iff.mp hr
      simp only [Outline.localRecordIds_flatMap, List.mem_flatMap] at hj
      obtain ⟨d, hd, hj⟩ := hj
      have hbelow := (hord i hi).members d (hri ▸ hd)
      cases d with
      | function fn =>
        cases hb : fn.body with
        | none => simp [hb] at hj
        | some b => exact hbelow j (by simpa [Decl.refs, hb, NodeKind.recordId?] using hj)
      | record k =>
        simp only at hj
        split at hj
        · exact Nat.lt_trans (ih k ‹_› j hj) ‹_›
        · simp at hj
      | scope _ _ | other => simp at hj

/-- **A local record's node owns what the record owns.** The node holds the record and, as
children, the bodies of its member functions; the walk finds the record, its member records and
the records defined in those bodies, which are the records below its members. -/
theorem View.owns_recordNode {s id : Nat} {R : Array Record} (hord : Arena.Ordered R)
    (hmem : ∀ i (h : i < R.size), ∀ d ∈ R[i].members, d.IsMember)
    (h : decls.Owns s [.record id] R) (l : Location) :
    nodes.Owns s [Node.mk (.record id) l (localRecordBodies R id)] R := by
  have hid : id < R.size := h.lt id (by simp [decls, Decl.refs])
  have hrid : R[id]? = some R[id] := Array.getElem?_eq_getElem hid
  constructor
  · intro j hj
    simp only [nodes, Outline.localRecordIds_cons, NodeKind.recordId?, Option.toList_some,
      Outline.localRecordIds_nil, List.append_nil, List.singleton_append, List.mem_cons] at hj
    rcases hj with rfl | hj
    · exact hid
    · exact Nat.lt_trans (localRecordIds_localRecordBodies hord id j hj) hid
  · have hperm := h.perm
    simp only [decls, List.flatMap_cons, List.flatMap_nil, List.append_nil,
      Arena.declIds_record_of_lt hid hrid] at hperm
    simp only [nodes, Arena.bodyIds_cons, NodeKind.recordId?, Option.toList_some,
      List.flatMap_cons, List.flatMap_nil, List.append_nil, Arena.bodyIds_nil, Arena.localIds,
      if_pos hid, List.cons_append]
    refine List.Perm.trans (List.Perm.cons id ?_) hperm
    have hmembers := Arena.memberIds_perm hord hmem id
    rw [Arena.memberIds, hrid] at hmembers
    exact hmembers.symm

/-- A member record added once it is lowered extends the record by it. -/
theorem Holds.bind_addRecord {s : Nat} {x : Lower Nat} {r : Record}
    (hx : Holds x f p fun id R => View.decls.Owns s [.record id] R) :
    Holds (x >>= fun id => Pure.pure { r with members := r.members ++ [.record id] }) f p
      (Extends r s) :=
  Holds.bind hx fun id _ hp' _ h => Holds.pure hp' (Extends.add (.record id) trivial h)

/-- A node that is not a record over the nodes a step gives owns what the step pushed. -/
theorem Holds.bind_node {s : Nat} {x : Lower (List Node)} {k : NodeKind} (hk : k.recordId? = none)
    (l : Location) (hx : Holds x f p (View.nodes.Owns s)) :
    Holds (x >>= fun cs => Pure.pure [Node.mk k l cs]) f p (View.nodes.Owns s) :=
  Holds.bind hx fun cs _ hp' _ h => Holds.pure hp' ((View.owns_node_iff hk l cs).mpr h)

theorem frame_modify {g : Progress → Progress} (hr : ∀ p, (g p).records = p.records)
    (hi : ∀ p, (g p).index = p.index) : Frame (modify g : Lower Unit) :=
  fun _ p => ⟨hr p, hi p⟩

theorem frame_pushTemplateParams (t : Syntax.Tree) : Frame (pushTemplateParams t) :=
  fun _ _ => ⟨rfl, rfl⟩

theorem frame_popTemplateParams : Frame popTemplateParams := fun _ _ => ⟨rfl, rfl⟩

theorem frame_pushLocals (names : List String) : Frame (pushLocals names) := fun _ _ => ⟨rfl, rfl⟩

theorem frame_popLocals : Frame popLocals := fun _ _ => ⟨rfl, rfl⟩

/-- A local declarator wraps the initializer's nodes in a local, or leaves them when it names
nothing; either way they own the same records. -/
theorem Holds.pushLocal {s : Nat} (hp : p.Sound) (d : Syntax.Tree) {cs : List Node}
    (h : View.nodes.Owns s cs p.records) : Holds (OfTree.pushLocal d cs) f p (View.nodes.Owns s) := by
  unfold OfTree.pushLocal
  refine Holds.read_bind ?_
  split
  · exact Holds.pure hp h
  · refine Holds.frame_bind (frame_modify (fun _ => rfl) (fun _ => rfl)) hp fun _ p' hp' hR => ?_
    refine Holds.pure hp' ?_
    rw [hR]
    exact (View.owns_node_iff rfl _ cs).mpr h

end OfTree

end SourceAudit
