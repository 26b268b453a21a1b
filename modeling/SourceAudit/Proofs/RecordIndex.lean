import SourceAudit.Proofs.StepInduction
import Mathlib

/-!
# The record index

Lowering keeps an index from keys to records. A record with a definition takes its key; one
without takes only a key no record holds yet. A class name in a base clause is looked up in it
from the scope in effect: a name with a leading `::` as it stands, any other under each prefix
of the scope, the longest first. Each record is offered to the index under its key, and the
history of those keys, `Progress.keys`, says what the index should be: `Progress.preferred`
reads off it, for each key, the latest definition offered under it, else the first record.

* `pushRecord_indexed`: a push keeps the index right (`Progress.Indexed`).
* `indexKept`: every lowering function keeps it right, at every fuel: the plumbing keeps it and
  only a record pushes (`keepsClosed`), so the induction on fuel of `StepClosed.allSteps` applies.
* `Progress.lookupRecord_eq_some_iff`, `Progress.lookupRecord_eq_none_iff`: with the index
  right, a lookup finds the preferred record of the key the path names (`Progress.KeyFor`).
* `bases_resolve_to_preferred_record`: the bases of a clause resolve as `Progress.Resolves` says.
-/

namespace SourceAudit.OfTree

open Text

namespace Progress

variable (p : Progress) (k : String)

/-- The records of the arena offered to the index under key `k`, in arena order. -/
def keyed : List Nat :=
  (List.range p.records.size).filter fun i => decide (p.keys[i]? = some (some k))

/-- The definitions among them. -/
def keyedDefinitions : List Nat :=
  (p.keyed k).filter fun i => decide (p.records[i]?.map (·.hasDefinition) = some true)

/-- The record key `k` should name: the latest definition offered under it, else the first record
offered under it. -/
def preferred : Option Nat :=
  (p.keyedDefinitions k).getLast?.or (p.keyed k).head?

/-- The index names, for each key, the record the key should name, and the history holds one key
per record of the arena. -/
structure Indexed : Prop where
  size : p.keys.size = p.records.size
  find : ∀ k, findKey p.index k = p.preferred k

/-- Only the arena, the index and the history matter to the index being right. -/
theorem Indexed.congr {p q : Progress} (hp : p.Indexed) (hr : q.records = p.records)
    (hi : q.index = p.index) (hk : q.keys = p.keys) : q.Indexed := by
  obtain ⟨records, index, keys, scope, templateParams, locals⟩ := p
  obtain ⟨records', index', keys', scope', templateParams', locals'⟩ := q
  simp only at hr hi hk
  subst hr hi hk
  exact ⟨hp.size, hp.find⟩

end Progress

/-- The progress a push leaves. -/
theorem pushRecord_run (r : Record) (key : Option String) (f : Facts) (p : Progress) :
    (pushRecord r key f p).2 =
      { p with records := p.records.push r, keys := p.keys.push key,
               index := match key with
                 | some k =>
                   if r.hasDefinition || (findKey p.index k).isNone then
                     (k, p.records.size) :: p.index.filter (·.1 != k)
                   else p.index
                 | none => p.index } := rfl

namespace Progress

variable {p : Progress} {k : String} (r : Record) (key : Option String) (idx : List (String × Nat))

theorem keyed_push (h : p.keys.size = p.records.size) :
    ({ p with records := p.records.push r, keys := p.keys.push key, index := idx } : Progress).keyed k =
      p.keyed k ++ if key = some k then [p.records.size] else [] := by
  have hnew : (p.keys.push key)[p.records.size]? = some key := by
    rw [← h]
    exact Array.getElem?_push_size
  simp only [keyed, Array.size_push, List.range_succ, List.filter_append]
  rw [List.filter_congr fun i hi => by
    rw [Array.getElem?_push, if_neg (Nat.ne_of_lt (h ▸ List.mem_range.mp hi : i < p.keys.size))]]
  by_cases hk : key = some k
  · subst hk
    simp [hnew]
  · simp [hnew, hk]

theorem keyedDefinitions_push (h : p.keys.size = p.records.size) :
    ({ p with records := p.records.push r, keys := p.keys.push key, index := idx } : Progress).keyedDefinitions k =
      p.keyedDefinitions k ++ if key = some k ∧ r.hasDefinition = true then [p.records.size] else [] := by
  have hlt : ∀ i ∈ p.keyed k, i < p.records.size := fun i hi =>
    List.mem_range.mp (List.mem_of_mem_filter hi)
  simp only [keyedDefinitions, keyed_push r key idx h, List.filter_append]
  rw [List.filter_congr fun i hi => by rw [Array.getElem?_push, if_neg (Nat.ne_of_lt (hlt i hi))]]
  by_cases hk : key = some k <;> by_cases hd : r.hasDefinition = true <;> simp [hk, hd]

theorem preferred_push (h : p.keys.size = p.records.size) :
    ({ p with records := p.records.push r, keys := p.keys.push key, index := idx } : Progress).preferred k =
      if key = some k then
        (if r.hasDefinition then some p.records.size else (p.preferred k).or (some p.records.size))
      else p.preferred k := by
  simp only [preferred, keyed_push r key idx h, keyedDefinitions_push r key idx h]
  by_cases hk : key = some k <;> by_cases hd : r.hasDefinition = true <;>
    simp [hk, hd, List.head?_append]

end Progress

/-- A key taken by a record leaves the other keys' entries where they were. -/
theorem findKey_take (index : List (String × Nat)) (k₀ k : String) (n : Nat) :
    findKey ((k₀, n) :: index.filter (·.1 != k₀)) k = if k₀ = k then some n else findKey index k := by
  by_cases hk : k₀ = k
  · simp [findKey, hk]
  · have hfilter : (index.filter (·.1 != k₀)).find? (·.1 == k) = index.find? (·.1 == k) := by
      rw [List.find?_filter]
      congr 1
      funext e
      by_cases he : e.1 = k
      · simp [he, Ne.symm hk]
      · simp [he]
    simp [findKey, hk, hfilter]

/-- **A push keeps the index right.** A definition takes its key; a declaration takes only a key no
record was offered under yet, and is then the first record under it. -/
theorem pushRecord_indexed {r : Record} {key : Option String} {f : Facts} {p : Progress}
    (hp : p.Indexed) : ((pushRecord r key) f p).2.Indexed := by
  rw [pushRecord_run]
  refine ⟨by simp [hp.size], fun k => ?_⟩
  rw [Progress.preferred_push r key _ hp.size]
  cases key with
  | none => simp [hp.find]
  | some k₀ =>
    dsimp only
    by_cases hk : k₀ = k
    · subst hk
      split
      case isTrue htake =>
        rw [findKey_take, if_pos rfl]
        cases hdef : r.hasDefinition
        · -- a declaration takes the key only when no record was offered under it
          have hnone : p.preferred k₀ = none := by
            rw [← hp.find]
            simpa [hdef] using htake
          simp [hnone]
        · simp
      case isFalse hkeep =>
        obtain ⟨hdef, j, hj⟩ : r.hasDefinition = false ∧ ∃ j, findKey p.index k₀ = some j := by
          simpa [Option.isNone_iff_eq_none, Option.ne_none_iff_exists'] using hkeep
        rw [hp.find] at hj ⊢
        simp [hdef, hj]
    · split <;> simp [findKey_take, hk, hp.find]

/-- Step `x` keeps the index right: from every progress whose index is right, it leaves one whose
index is right. -/
def Keeps {α : Type} (x : Lower α) : Prop :=
  ∀ f p, Progress.Indexed p → Progress.Indexed (x f p).2

namespace Keeps

variable {α β : Type}

theorem pure (a : α) : Keeps (Pure.pure a : Lower α) := fun _ _ hp => hp

theorem bind {x : Lower α} {k : α → Lower β} (hx : Keeps x) (hk : ∀ a, Keeps (k a)) :
    Keeps (x >>= k) :=
  fun f p hp => hk _ f _ (hx f p hp)

theorem read_bind {k : Facts → Lower β} (hk : ∀ a, Keeps (k a)) : Keeps (read >>= k) :=
  fun f p hp => hk f f p hp

theorem get_bind {k : Progress → Lower β} (hk : ∀ a, Keeps (k a)) : Keeps (get >>= k) :=
  fun f p hp => hk p f p hp

/-- Bookkeeping of scopes, templates and locals leaves the arena, the index and the history. -/
theorem modify {g : Progress → Progress} (hg : ∀ p, (g p).records = p.records ∧
    (g p).index = p.index ∧ (g p).keys = p.keys) : Keeps (modify g : Lower Unit) := by
  intro f p hp
  obtain ⟨hr, hi, hk⟩ := hg p
  exact hp.congr hr hi hk

theorem pushRecord (r : Record) (key : Option String) : Keeps (OfTree.pushRecord r key) :=
  fun _ _ hp => pushRecord_indexed hp

end Keeps

/-- At fuel `n`, every lowering function keeps the index right. -/
structure IndexKept (n : Nat) : Prop where
  top : ∀ t, Keeps (lowerTop n t)
  declaration : ∀ t, Keeps (lowerDeclaration n t)
  function : ∀ t q, Keeps (lowerFunction n t q)
  record : ∀ t q, Keeps (lowerRecord n t q)
  members : ∀ body q r, Keeps (lowerMembers n body q r)
  member : ∀ m q r, Keeps (lowerMember n m q r)
  memberDeclaration : ∀ t q r, Keeps (lowerMemberDeclaration n t q r)
  memberFunction : ∀ t q r, Keeps (lowerMemberFunction n t q r)
  children : ∀ t, Keeps (lowerChildren n t)
  field : ∀ t fld, Keeps (lowerField n t fld)
  into : ∀ t, Keeps (lowerInto n t)
  localDeclaration : ∀ t, Keeps (lowerLocalDeclaration n t)

/-- Keeping the index right is a property of steps the plumbing keeps: only a record pushes to
the arena, and `pushRecord_indexed` keeps the index right there. -/
theorem keepsClosed : StepClosed Keeps where
  pure := Keeps.pure
  bind := Keeps.bind
  read_bind := Keeps.read_bind
  get_bind := Keeps.get_bind
  modify := Keeps.modify
  record_zero t q := by rw [lowerRecord.eq_1]; exact Keeps.pushRecord _ _
  record_succ n t q hm := by
    rw [lowerRecord.eq_2]
    refine Keeps.read_bind fun f => Keeps.get_bind fun p => ?_
    dsimp only
    split
    · -- the members are lowered in the record's scope, then the record is pushed
      refine Keeps.bind (Keeps.modify fun _ => ⟨rfl, rfl, rfl⟩) fun _ => ?_
      refine Keeps.bind (hm _ _ _) fun _ => ?_
      refine Keeps.bind (Keeps.modify fun _ => ⟨rfl, rfl, rfl⟩) fun _ => ?_
      exact StepClosed.pure_bind (Keeps.pushRecord _ _)
    · exact StepClosed.pure_bind (Keeps.pushRecord _ _)

/-- **Every lowering function keeps the index right**, at every fuel. -/
theorem indexKept (n : Nat) : IndexKept n :=
  have h := keepsClosed.allSteps n
  ⟨h.top, h.declaration, h.function, h.record, h.members, h.member, h.memberDeclaration,
    h.memberFunction, h.children, h.field, h.into, h.localDeclaration⟩

/-! ### Looking a class path up -/

namespace Progress

variable {p : Progress} {k : String}

theorem preferred_eq_none_iff : p.preferred k = none ↔ p.keyed k = [] := by
  unfold preferred keyedDefinitions
  cases p.keyed k <;> simp

theorem keyed_ne_nil_of_preferred {j : Nat} (h : p.preferred k = some j) : p.keyed k ≠ [] :=
  fun hnil => by simp [preferred_eq_none_iff.mpr hnil] at h

/-- The empty progress has nothing to index. -/
theorem indexed_empty : ({} : Progress).Indexed where
  size := rfl
  find k := by simp [findKey, preferred, keyedDefinitions, keyed]

end Progress

/-- The key of `path` under the first `d` segments of scope `S`: `path` itself at depth zero. -/
def prefixKey (S : List String) (d : Nat) (path : String) : String :=
  if d = 0 then path else Qualified.join (S.take d) ++ "::" ++ path

/-- Depths tried from `m` down to `0` stop at the largest depth with a hit. -/
theorem findSome?_range_reverse_eq_some {β : Type} (g : Nat → Option β) (m : Nat) (b : β) :
    (List.range (m + 1)).reverse.findSome? g = some b ↔
      ∃ d ≤ m, g d = some b ∧ ∀ d', d < d' → d' ≤ m → g d' = none := by
  induction m with
  | zero =>
    simp
    intro _ d' h₁ h₂
    omega
  | succ m ih =>
    rw [List.range_succ, List.reverse_append, List.reverse_singleton, List.singleton_append,
      List.findSome?_cons]
    cases hm : g (m + 1) with
    | some c =>
      constructor
      · rintro ⟨⟩
        exact ⟨m + 1, le_rfl, hm, fun d' h₁ h₂ => absurd h₂ (by omega)⟩
      · rintro ⟨d, hd, hgd, hmax⟩
        obtain rfl : d = m + 1 := by
          by_contra hne
          simp [hmax (m + 1) (by omega) le_rfl] at hm
        rw [hm] at hgd
        exact hgd
    | none =>
      dsimp only
      rw [ih]
      constructor
      · rintro ⟨d, hd, hgd, hmax⟩
        refine ⟨d, by omega, hgd, fun d' h₁ h₂ => ?_⟩
        rcases Nat.lt_or_ge m d' with h | h
        · obtain rfl : d' = m + 1 := by omega
          exact hm
        · exact hmax d' h₁ h
      · rintro ⟨d, hd, hgd, hmax⟩
        have hne : d ≠ m + 1 := by
          rintro rfl
          rw [hm] at hgd
          cases hgd
        exact ⟨d, by omega, hgd, fun d' h₁ h₂ => hmax d' h₁ (by omega)⟩

/-- A relative path is looked up under each prefix of the scope, the longest first. -/
theorem lookupRecord_relative {index : List (String × Nat)} {S : List String} {path : String}
    (h : Qualified.stripRoot? path = none) :
    lookupRecord index S path =
      (List.range (S.length + 1)).reverse.findSome? fun d => findKey index (prefixKey S d path) := by
  unfold lookupRecord
  rw [h]
  simp only [prefixKey, beq_iff_eq]

namespace Progress

/-- The key a class path names from scope `S`, given the keys offered so far: a path with a
leading `::` names itself without it, and any other path names itself under the longest prefix
of the scope under which some record was offered. -/
def KeyFor (p : Progress) (S : List String) (path k : String) : Prop :=
  match Qualified.stripRoot? path with
  | some absolute => k = absolute ∧ p.keyed k ≠ []
  | none => ∃ d ≤ S.length, k = prefixKey S d path ∧ p.keyed k ≠ [] ∧
      ∀ d', d < d' → d' ≤ S.length → p.keyed (prefixKey S d' path) = []

variable {p : Progress} {k : String}

theorem KeyFor.keyed_ne_nil {S : List String} {path : String} (h : p.KeyFor S path k) :
    p.keyed k ≠ [] := by
  unfold KeyFor at h
  split at h
  · exact h.2
  · obtain ⟨d, -, -, hk, -⟩ := h
    exact hk

variable {S : List String} {path : String}

/-- **With the index right, a lookup finds the preferred record of the key the path names.** -/
theorem lookupRecord_eq_some_iff (hp : p.Indexed) (j : Nat) :
    lookupRecord p.index S path = some j ↔ ∃ k, p.KeyFor S path k ∧ p.preferred k = some j := by
  unfold KeyFor
  cases habs : Qualified.stripRoot? path with
  | some absolute =>
    simp only [lookupRecord, habs, hp.find]
    constructor
    · intro h
      exact ⟨absolute, ⟨rfl, keyed_ne_nil_of_preferred h⟩, h⟩
    · rintro ⟨k, ⟨rfl, -⟩, h⟩
      exact h
  | none =>
    simp only [lookupRecord_relative habs, hp.find, findSome?_range_reverse_eq_some,
      preferred_eq_none_iff]
    constructor
    · rintro ⟨d, hd, hj, hmax⟩
      exact ⟨_, ⟨d, hd, rfl, keyed_ne_nil_of_preferred hj, hmax⟩, hj⟩
    · rintro ⟨k, ⟨d, hd, rfl, -, hmax⟩, hj⟩
      exact ⟨d, hd, hj, hmax⟩

/-- A lookup finds nothing exactly when no key was offered under any name the path can take. -/
theorem lookupRecord_eq_none_iff (hp : p.Indexed) :
    lookupRecord p.index S path = none ↔ ¬∃ k, p.KeyFor S path k := by
  rw [Option.eq_none_iff_forall_ne_some]
  simp only [ne_eq, lookupRecord_eq_some_iff hp, not_exists, not_and]
  constructor
  · intro h k hk
    obtain ⟨j, hj⟩ := Option.ne_none_iff_exists'.mp (mt preferred_eq_none_iff.mp hk.keyed_ne_nil)
    exact h j k hk hj
  · intro h j k hk
    exact absurd hk (h k)

end Progress

/-! ### What a base clause resolves to -/

section Bases

variable {f : Facts} {p : Progress} {clause : Syntax.Tree} {tag : Tag}

/-- What a base clause read so far has: a pending class name among the clause's children, and
bases whose types are what such a child gives. -/
def BasesFrom (f : Facts) (p : Progress) (clause : Syntax.Tree) (st : PendingBase × List Base) :
    Prop :=
  (∀ ty, st.1.type = some ty → ty ∈ clause.children) ∧
    ∀ b ∈ st.2, ∃ ty ∈ clause.children, b.type = baseType f p ty

theorem basesFrom_finishBase {pb : PendingBase} {done : List Base}
    (h : BasesFrom f p clause (pb, done)) :
    ∀ b ∈ finishBase f p tag pb done, ∃ ty ∈ clause.children, b.type = baseType f p ty := by
  intro b hb
  unfold finishBase at hb
  split at hb
  · rcases List.mem_append.mp hb with hb | hb
    · exact h.2 b hb
    · rw [List.mem_singleton] at hb
      exact ⟨_, h.1 _ ‹_›, congrArg Base.type hb⟩
  · exact h.2 b hb

/-- A token of the clause keeps the pending class name among the children. -/
theorem basesFrom_baseStep {st : PendingBase × List Base} {c : Syntax.Tree}
    (hc : c ∈ clause.children) (h : BasesFrom f p clause st) :
    BasesFrom f p clause (baseStep f p tag st c) := by
  unfold baseStep
  split
  · exact h
  · exact h
  · exact ⟨(fun _ hty => by cases hty), basesFrom_finishBase h⟩
  · refine ⟨fun ty hty => ?_, h.2⟩
    -- only a class-name token changes the pending type, and it becomes that token
    dsimp only at hty
    split at hty
    all_goals
      simp only [apply_ite PendingBase.type] at hty
      split_ifs at hty
      all_goals first
        | exact h.1 ty hty
        | exact Option.some_injective _ hty ▸ hc

/-- Every base of a clause has the type one of the clause's children gives. -/
theorem mem_lowerBases {b : Base} (hb : b ∈ lowerBases f p clause tag) :
    ∃ ty ∈ clause.children, b.type = baseType f p ty := by
  have hfold : ∀ cs : List Syntax.Tree, (∀ c ∈ cs, c ∈ clause.children) →
      ∀ st, BasesFrom f p clause st → BasesFrom f p clause (cs.foldl (baseStep f p tag) st) := by
    intro cs
    induction cs with
    | nil => exact fun _ _ hst => hst
    | cons c cs ih =>
      intro hcs st hst
      exact ih (fun c' hc' => hcs c' (List.mem_cons_of_mem c hc'))
        _ (basesFrom_baseStep (hcs c List.mem_cons_self) hst)
  unfold lowerBases at hb
  have hst := hfold clause.children (fun _ h => h) ({}, [])
    ⟨(fun _ hty => by cases hty), fun _ h => absurd h List.not_mem_nil⟩
  exact basesFrom_finishBase hst b hb

end Bases

namespace Progress

variable {p : Progress}

/-- The class path is an enclosing template parameter: unqualified, and declared by some
template in scope. -/
def namesTemplateParam (p : Progress) (path : String) : Bool :=
  !Qualified.hasSeparator path && p.templateParams.any (·.contains path)

/-- What a base's type should be for class path `path`, spelled `text`, seen from `p`: the path
itself when it is a template parameter, else the preferred record of the key it names, or the
spelling when it names no key. -/
def Resolves (p : Progress) (path text : String) : BaseType → Prop
  | .nonRecord name => p.namesTemplateParam path = true ∧ name = path
  | .record j =>
    p.namesTemplateParam path = false ∧ ∃ k, p.KeyFor p.scope path k ∧ p.preferred k = some j
  | .unresolved name =>
    p.namesTemplateParam path = false ∧ (¬∃ k, p.KeyFor p.scope path k) ∧ name = text

/-- With the index right, a class name resolves as `Resolves` says. -/
theorem baseType_resolves (hp : p.Indexed) (f : Facts) (t : Syntax.Tree) :
    p.Resolves (classPath f.src t) (spelled f.src t) (baseType f p t) := by
  unfold baseType
  dsimp only
  split
  · exact ⟨‹_›, rfl⟩
  · have htp : p.namesTemplateParam (classPath f.src t) = false := eq_false_of_ne_true ‹_›
    split
    · exact ⟨htp, (lookupRecord_eq_some_iff hp _).mp ‹_›⟩
    · exact ⟨htp, (lookupRecord_eq_none_iff hp).mp ‹_›, rfl⟩

end Progress

/-- **Bases resolve to the record the index prefers.** The empty progress is indexed and every
lowering step keeps it so; from an indexed progress, each base of a clause is the template
parameter it names, the preferred record of the key its class path names under the longest
scope prefix that has one (the path alone after a leading `::`), or its spelling when no key
fits. -/
theorem bases_resolve_to_preferred_record :
    ({} : Progress).Indexed ∧ (∀ n, IndexKept n) ∧
    (∀ (f : Facts) (p : Progress) (clause : Syntax.Tree) (tag : Tag),
      ∀ b ∈ lowerBases f p clause tag, ∃ ty ∈ clause.children, b.type = baseType f p ty) ∧
    ∀ (f : Facts) (p : Progress), p.Indexed →
      ∀ t, p.Resolves (classPath f.src t) (spelled f.src t) (baseType f p t) :=
  ⟨Progress.indexed_empty, indexKept, fun _ _ _ _ _ hb => mem_lowerBases hb,
    fun f _ hp t => Progress.baseType_resolves hp f t⟩

end SourceAudit.OfTree
