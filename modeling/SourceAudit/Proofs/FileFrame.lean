import SourceAudit.FileSystem.Basic
import Mathlib
/-!
# What a file operation leaves alone

The operations of `FileSystem` act on one resolved path each. This module says what they do to
every other path: writing a file sets the entry at its path and nothing else, removing a file
drops the entry at its path and nothing else, and neither makes nor removes a directory. A
path text is resolved through directories alone, so two trees with the same directories
resolve a path text alike.

* `FileSystem.find?_set`, `FileSystem.find?_drop`: the entry at every path after an update.
* `FileSystem.SameDirs`, `FileSystem.resolve_of_sameDirs`: resolution sees only directories.
* `FileSystem.write_eq_ok`, `FileSystem.remove_eq_ok`, `FileSystem.read_eq_ok`: what a
  successful operation did, in terms of the resolved path; `FileSystem.read_write`: a file
  reads back what was written to it.
* `FileSystem.resolve_last_of_suffix`: a path resolves to one whose last name ends with any
  long enough `/`-free ending of the path text.
* `FileSystem.Drops`: a tree with some files removed and nothing else changed; a read that
  succeeds there read the same before; `FileSystem.Drops.between_writes`: removals between two
  writes of one file.
-/

namespace SourceAudit

section Except

variable {ε α β : Type}

/-- A sequenced computation succeeds exactly when each step succeeds in turn. -/
@[simp] theorem bind_eq_ok {x : Except ε α} {f : α → Except ε β} {b : β} :
    (x >>= f) = .ok b ↔ ∃ a, x = .ok a ∧ f a = .ok b := by
  cases x <;> simp [bind, Except.bind]

@[simp] theorem throw_ne_ok {e : ε} {a : α} : (throw e : Except ε α) ≠ .ok a := by
  simp [throw, throwThe, MonadExceptOf.throw]

@[simp] theorem pure_eq_ok {a b : α} : (pure a : Except ε α) = .ok b ↔ a = b := by
  simp [pure, Except.pure]

end Except

namespace FileSystem

variable {fs fs' fs'' : FileSystem}

@[simp] theorem find?_nil (fs : FileSystem) : fs.find? [] = some .dir := rfl

theorem find?_of_ne_nil {q : List String} (hq : q ≠ []) :
    fs.find? q = (fs.entries.find? (·.1 == q)).map (·.2) := by
  simp [find?, hq]

/-! ### The entry at every path after an update -/

/-- Replacing the entry at `p` in place: the entries keep their paths, so the one found at `q`
is the same, with the new entry when `q = p`. -/
theorem find?_map_replace {l : List (List String × Entry)} {p : List String}
    (hany : l.any (·.1 == p) = true) (e : Entry) (q : List String) :
    ((l.map fun (r, old) => if r == p then (r, e) else (r, old)).find? (·.1 == q)).map (·.2) =
      if q = p then some e else (l.find? (·.1 == q)).map (·.2) := by
  rw [List.find?_map]
  have hpred : ((fun x : List String × Entry => x.1 == q) ∘
      fun x : List String × Entry => match x with
        | (r, old) => if (r == p) = true then (r, e) else (r, old)) = fun x => x.1 == q := by
    funext ⟨r, old⟩
    by_cases h : r = p <;> simp [h]
  rw [hpred, Option.map_map]
  split
  · rename_i hqp
    subst hqp
    -- an entry at `q` exists, so the search finds one
    obtain ⟨x, hx, hxq⟩ := List.any_eq_true.mp hany
    obtain ⟨y, hy⟩ : ∃ y, l.find? (·.1 == q) = some y :=
      Option.isSome_iff_exists.mp (List.find?_isSome.mpr ⟨x, hx, hxq⟩)
    have hyq : y.1 = q := by simpa using List.find?_some hy
    obtain ⟨r, old⟩ := y
    simp_all
  · rename_i hqp
    cases hf : l.find? (·.1 == q) with
    | none => rfl
    | some y =>
      have hyq : y.1 = q := by simpa using List.find?_some hf
      obtain ⟨r, old⟩ := y
      simp only at hyq
      subst hyq
      simp [hqp]

/-- Appending an entry at a new path `p`: it is found at `p` only. -/
theorem find?_append_new {l : List (List String × Entry)} {p : List String}
    (hany : ¬l.any (·.1 == p) = true) (e : Entry) (q : List String) :
    ((l ++ [(p, e)]).find? (·.1 == q)).map (·.2) =
      if q = p then some e else (l.find? (·.1 == q)).map (·.2) := by
  rw [List.find?_append]
  split
  · rename_i hqp
    subst hqp
    have hnone : l.find? (·.1 == q) = none := by
      simp only [List.any_eq_true, beq_iff_eq, not_exists, not_and] at hany
      exact List.find?_eq_none.mpr fun x hx hxq => hany x hx (by simpa using hxq)
    simp [hnone]
  · rename_i hqp
    have hnone : [(p, e)].find? (·.1 == q) = none := by
      simp [Ne.symm hqp]
    simp [hnone]

/-- **After setting the entry at `p`**, the entry at `q` is the new one when `q = p`, and what it
was otherwise. -/
theorem find?_set {p : List String} (hp : p ≠ []) (e : Entry) (q : List String) :
    (fs.set p e).find? q = if q = p then some e else fs.find? q := by
  by_cases hq : q = []
  · subst hq
    simp [find?, Ne.symm hp]
  rw [find?_of_ne_nil hq, find?_of_ne_nil hq]
  unfold set
  split
  · exact find?_map_replace ‹_› e q
  · exact find?_append_new ‹_› e q

/-- **After dropping the entries at `p`**, there is nothing at `p` and the rest is unchanged. -/
theorem find?_drop {p : List String} (hp : p ≠ []) (q : List String) :
    ({ entries := fs.entries.filter (·.1 != p) } : FileSystem).find? q =
      if q = p then none else fs.find? q := by
  by_cases hq : q = []
  · subst hq
    simp [find?, Ne.symm hp]
  rw [find?_of_ne_nil hq, find?_of_ne_nil hq, List.find?_filter]
  split
  · rename_i hqp
    subst hqp
    simp
  · rename_i hqp
    congr 2
    funext x
    by_cases h : x.1 = q
    · simp [h, hqp]
    · simp [h]

theorem ne_nil_of_find?_ne_dir {p : List String} (h : fs.find? p ≠ some .dir) : p ≠ [] := by
  rintro rfl
  exact h rfl

theorem ne_nil_of_find?_eq_file {p : List String} {c : String} (h : fs.find? p = some (.file c)) :
    p ≠ [] := by
  rintro rfl
  simp at h

/-! ### Resolution sees only directories -/

/-- Two trees with the same directories. -/
def SameDirs (fs fs' : FileSystem) : Prop :=
  ∀ q, fs.find? q = some .dir ↔ fs'.find? q = some .dir

theorem SameDirs.refl (fs : FileSystem) : SameDirs fs fs := fun _ => Iff.rfl

theorem SameDirs.symm (h : SameDirs fs fs') : SameDirs fs' fs := fun q => (h q).symm

theorem SameDirs.trans (h : SameDirs fs fs') (h' : SameDirs fs' fs'') : SameDirs fs fs'' :=
  fun q => (h q).trans (h' q)

/-- Setting a file where no directory is keeps the directories. -/
theorem sameDirs_set {p : List String} (hold : fs.find? p ≠ some .dir) (c : String) :
    SameDirs fs (fs.set p (.file c)) := by
  intro q
  rw [find?_set (ne_nil_of_find?_ne_dir hold)]
  split
  · rename_i hqp
    subst hqp
    simp [hold]
  · rfl

/-- Dropping a file keeps the directories. -/
theorem sameDirs_drop {p : List String} {c : String} (hold : fs.find? p = some (.file c)) :
    SameDirs fs { entries := fs.entries.filter (·.1 != p) } := by
  have hp : p ≠ [] := ne_nil_of_find?_eq_file hold
  intro q
  rw [find?_drop hp]
  split
  · rename_i hqp
    subst hqp
    simp [hold]
  · rfl

theorem resolveParts_of_sameDirs (h : SameDirs fs fs') {cur parts p : List String}
    (hr : fs.resolveParts cur parts = .ok p) : fs'.resolveParts cur parts = .ok p := by
  induction parts generalizing cur with
  | nil => simpa [resolveParts] using hr
  | cons part rest ih =>
    -- each step reads only whether `cur` is a directory, which both trees agree on
    unfold resolveParts at hr ⊢
    cases hc : fs.find? cur with
    | none => simp [hc] at hr
    | some e =>
      cases e with
      | file c => simp [hc] at hr
      | dir =>
        rw [(h cur).mp hc]
        rw [hc] at hr
        simp only at hr ⊢
        split_ifs at hr ⊢ <;> exact ih hr

/-- **Trees with the same directories resolve a path text alike.** -/
theorem resolve_of_sameDirs (h : SameDirs fs fs') {path : String} {p : List String}
    (hr : fs.resolve path = .ok p) : fs'.resolve path = .ok p := by
  unfold resolve at hr ⊢
  split at hr
  · simp at hr
  · rw [if_neg ‹_›]
    exact resolveParts_of_sameDirs h hr

/-! ### What a successful operation did -/

theorem write_eq_ok {path c : String} (h : fs.write path c = .ok fs') :
    ∃ p, fs.resolve path = .ok p ∧ fs.find? p ≠ some .dir ∧ fs' = fs.set p (.file c) := by
  simp only [write, bind_eq_ok] at h
  obtain ⟨p, hp, h⟩ := h
  refine ⟨p, hp, ?_⟩
  split at h
  · simp at h
  · rename_i hne
    exact ⟨hne, (pure_eq_ok.mp h).symm⟩

theorem remove_eq_ok {path : String} (h : fs.remove path = .ok fs') :
    ∃ p c, fs.resolve path = .ok p ∧ fs.find? p = some (.file c) ∧
      fs' = { entries := fs.entries.filter (·.1 != p) } := by
  simp only [remove, bind_eq_ok] at h
  obtain ⟨p, hp, h⟩ := h
  split at h
  · simp at h
  · simp at h
  · rename_i c hc
    exact ⟨p, c, hp, hc, (pure_eq_ok.mp h).symm⟩

theorem read_eq_ok {path c : String} :
    fs.read path = .ok c ↔ ∃ p, fs.resolve path = .ok p ∧ fs.find? p = some (.file c) := by
  unfold read stat
  cases hr : fs.resolve path with
  | error e => simp [bind, Except.bind]
  | ok p =>
    cases hf : fs.find? p with
    | none => simp [hf, bind, Except.bind]
    | some e => cases e <;> simp [hf, bind, Except.bind, pure, Except.pure, throw, throwThe,
        MonadExceptOf.throw]

/-- **A file reads back what was written to it.** -/
theorem read_write {path c : String} (h : fs.write path c = .ok fs') : fs'.read path = .ok c := by
  obtain ⟨p, hp, hold, rfl⟩ := write_eq_ok h
  rw [read_eq_ok]
  exact ⟨p, resolve_of_sameDirs (sameDirs_set hold c) hp,
    by simp [find?_set (ne_nil_of_find?_ne_dir hold)]⟩

/-- A successful write changes the entry at the written path only. -/
theorem find?_write {path c : String} (h : fs.write path c = .ok fs') {q : List String}
    (hq : fs'.find? q ≠ fs.find? q) : fs.resolve path = .ok q := by
  obtain ⟨p, hp, hold, rfl⟩ := write_eq_ok h
  rw [find?_set (ne_nil_of_find?_ne_dir hold)] at hq
  split at hq
  · rename_i hqp
    exact hqp ▸ hp
  · exact absurd rfl hq

theorem sameDirs_write {path c : String} (h : fs.write path c = .ok fs') : SameDirs fs fs' := by
  obtain ⟨p, -, hold, rfl⟩ := write_eq_ok h
  exact sameDirs_set hold c

/-- A read after a write to another path read the same before it. -/
theorem read_of_write {path c path' t : String} (hw : fs.write path c = .ok fs')
    (hr : fs'.read path' = .ok t) (hapart : ∀ q, fs.resolve path' = .ok q → fs.resolve path ≠ .ok q) :
    fs.read path' = .ok t := by
  obtain ⟨p, hp, hc⟩ := read_eq_ok.mp hr
  have hp' : fs.resolve path' = .ok p := resolve_of_sameDirs (sameDirs_write hw).symm hp
  refine read_eq_ok.mpr ⟨p, hp', ?_⟩
  by_contra hne
  exact hapart p hp' (find?_write hw (by rw [hc]; exact Ne.symm hne))

/-! ### The last name of a resolved path -/

/-- A character list splits at its last `/` into what precedes it (empty, or ending with `/`)
and a last part without `/`. -/
theorem exists_lastPart (cs : List Char) :
    ∃ d xs, cs = d ++ xs ∧ '/' ∉ xs ∧ (d = [] ∨ ∃ d', d = d' ++ ['/']) := by
  induction cs with
  | nil => exact ⟨[], [], rfl, by simp, .inl rfl⟩
  | cons c rest ih =>
    obtain ⟨d, xs, rfl, hxs, hd⟩ := ih
    rcases hd with rfl | ⟨d', rfl⟩
    · by_cases hc : c = '/'
      · exact ⟨['/'], xs, by simp [hc], hxs, .inr ⟨[], rfl⟩⟩
      · exact ⟨[], c :: xs, rfl, by simp [hxs, Ne.symm hc], .inl rfl⟩
    · exact ⟨c :: d' ++ ['/'], xs, by simp, hxs, .inr ⟨c :: d', rfl⟩⟩

theorem splitOn_lastPart {d xs : List Char} (hxs : '/' ∉ xs)
    (hd : d = [] ∨ ∃ d', d = d' ++ ['/']) : ∃ init, (d ++ xs).splitOn '/' = init ++ [xs] := by
  rcases hd with rfl | ⟨d', rfl⟩
  · exact ⟨[], by simpa using List.splitOn_eq_singleton hxs⟩
  · refine ⟨d'.splitOn '/', ?_⟩
    rw [List.append_assoc, List.singleton_append, List.splitOn_append_cons_self,
      List.splitOn_eq_singleton hxs]

/-- A `/`-free ending of a path text is an ending of its last part. -/
theorem suffix_lastPart {t d xs : List Char} (ht : t <:+ d ++ xs) (hslash : '/' ∉ t)
    (hd : d = [] ∨ ∃ d', d = d' ++ ['/']) : t <:+ xs := by
  by_cases hlen : t.length ≤ xs.length
  · exact List.suffix_of_suffix_length_le ht (List.suffix_append d xs) hlen
  · -- a longer ending would reach back over the `/` before the last part
    rcases hd with rfl | ⟨d', rfl⟩
    · simpa using ht
    · have h1 : ('/' :: xs) <:+ d' ++ ['/'] ++ xs := by simp
      have h2 := List.suffix_of_suffix_length_le h1 ht (by simp; omega)
      exact absurd (h2.subset (by simp)) hslash

theorem resolveParts_append (cur ps qs : List String) :
    fs.resolveParts cur (ps ++ qs) = fs.resolveParts cur ps >>= fun c => fs.resolveParts c qs := by
  induction ps generalizing cur with
  | nil => rfl
  | cons part rest ih =>
    simp only [List.cons_append, resolveParts.eq_2]
    cases fs.find? cur with
    | none => rfl
    | some e =>
      cases e with
      | file c => rfl
      | dir =>
        simp only
        split_ifs <;> exact ih _

/-- A plain name at the end of the parts is the last name of the resolved path. -/
theorem resolveParts_snoc_name {cur ps p : List String} {x : String}
    (h : fs.resolveParts cur (ps ++ [x]) = .ok p) (hx : x ≠ "" ∧ x ≠ "." ∧ x ≠ "..") :
    ∃ q, p = q ++ [x] := by
  rw [resolveParts_append, bind_eq_ok] at h
  obtain ⟨q, -, h⟩ := h
  unfold resolveParts at h
  refine ⟨q, ?_⟩
  cases hf : fs.find? q with
  | none => simp [hf] at h
  | some e =>
    cases e with
    | file c => simp [hf] at h
    | dir =>
      simp [hf, hx, resolveParts] at h
      exact h.symm

/-- **The last name of a resolved path** ends with every `/`-free ending of the path text of
three characters or more. -/
theorem resolve_last_of_suffix {path : String} {p : List String} {t : List Char}
    (h : fs.resolve path = .ok p) (ht : t <:+ path.toList) (hslash : '/' ∉ t)
    (hlen : 3 ≤ t.length) : ∃ q x, p = q ++ [x] ∧ t <:+ x.toList := by
  unfold resolve at h
  split at h
  · simp at h
  obtain ⟨d, xs, hcs, hxs, hd⟩ := exists_lastPart path.toList
  obtain ⟨init, hsplit⟩ := splitOn_lastPart hxs hd
  have htx : t <:+ xs := suffix_lastPart (hcs ▸ ht) hslash hd
  rw [hcs, hsplit, List.map_append, List.map_singleton] at h
  -- three characters rule out the parts that do not name an entry: "", "." and ".."
  have hxlen : 3 ≤ (String.ofList xs).length := by
    simpa using hlen.trans htx.length_le
  have hx : String.ofList xs ≠ "" ∧ String.ofList xs ≠ "." ∧ String.ofList xs ≠ ".." := by
    refine ⟨?_, ?_, ?_⟩ <;> intro heq <;> rw [heq] at hxlen <;> revert hxlen <;> decide
  obtain ⟨q, rfl⟩ := resolveParts_snoc_name h hx
  exact ⟨q, _, rfl, by simpa using htx⟩

/-! ### Removing files -/

/-- **`fs'` is `fs` with the files that the path texts `removed` reach taken away**, and
nothing else changed. -/
structure Drops (fs : FileSystem) (removed : List String) (fs' : FileSystem) : Prop where
  dirs : SameDirs fs fs'
  gone : ∀ r ∈ removed, ∃ q, fs.resolve r = .ok q ∧ fs'.find? q = none
  only : ∀ q, fs'.find? q ≠ fs.find? q → fs'.find? q = none ∧ ∃ r ∈ removed, fs.resolve r = .ok q

theorem Drops.refl (fs : FileSystem) : Drops fs [] fs :=
  ⟨SameDirs.refl fs, by simp, fun _ h => absurd rfl h⟩

theorem drops_remove {path : String} (h : fs.remove path = .ok fs') : Drops fs [path] fs' := by
  obtain ⟨p, c, hp, hc, rfl⟩ := remove_eq_ok h
  have hpne : p ≠ [] := ne_nil_of_find?_eq_file hc
  refine ⟨sameDirs_drop hc, ?_, fun q hq => ?_⟩
  · simp only [List.mem_singleton, forall_eq]
    exact ⟨p, hp, by simp [find?_drop hpne]⟩
  · rw [find?_drop hpne] at hq ⊢
    split at hq
    · rename_i hqp
      exact ⟨if_pos hqp, path, by simp, hqp ▸ hp⟩
    · exact absurd rfl hq

theorem Drops.trans {A B : List String} (h : Drops fs A fs') (h' : Drops fs' B fs'') :
    Drops fs (A ++ B) fs'' := by
  refine ⟨h.dirs.trans h'.dirs, ?_, fun q hq => ?_⟩
  · intro r hr
    rcases List.mem_append.mp hr with hr | hr
    · -- removed by the first step, and `fs''` only ever removes more
      obtain ⟨q, hq, hnone⟩ := h.gone r hr
      refine ⟨q, hq, ?_⟩
      by_cases hchg : fs''.find? q = fs'.find? q
      · rw [hchg, hnone]
      · exact (h'.only q hchg).1
    · obtain ⟨q, hq, hnone⟩ := h'.gone r hr
      exact ⟨q, resolve_of_sameDirs h.dirs.symm hq, hnone⟩
  · by_cases hchg : fs''.find? q = fs'.find? q
    · rw [hchg] at hq ⊢
      obtain ⟨hnone, r, hr, hrq⟩ := h.only q hq
      exact ⟨hnone, r, List.mem_append_left _ hr, hrq⟩
    · obtain ⟨hnone, r, hr, hrq⟩ := h'.only q hchg
      exact ⟨hnone, r, List.mem_append_right _ hr, resolve_of_sameDirs h.dirs.symm hrq⟩

/-- **A read that succeeds after files were removed read the same before.** -/
theorem Drops.read {removed : List String} (h : Drops fs removed fs') {path c : String}
    (hr : fs'.read path = .ok c) : fs.read path = .ok c := by
  obtain ⟨p, hp, hc⟩ := read_eq_ok.mp hr
  refine read_eq_ok.mpr ⟨p, resolve_of_sameDirs h.dirs.symm hp, ?_⟩
  by_contra hne
  have := (h.only p (by rw [hc]; exact Ne.symm hne)).1
  simp [hc] at this

/-- **A file written, others removed, and the file written again**: the tree differs from the
first only at the written path and at the removed files, which are gone, as long as no removed
file is the written one. -/
theorem Drops.between_writes {path c₀ c₂ : String} {removed : List String}
    {fs₀ fs₁ fs₂ : FileSystem} (hw₀ : fs.write path c₀ = .ok fs₀) (hdrops : Drops fs₀ removed fs₁)
    (hw₂ : fs₁.write path c₂ = .ok fs₂)
    (hapart : ∀ r ∈ removed, ∀ q, fs.resolve r = .ok q → fs.resolve path ≠ .ok q) :
    (∀ r ∈ removed, ∃ q, fs.resolve r = .ok q ∧ fs₂.find? q = none) ∧
      ∀ q, fs₂.find? q ≠ fs.find? q →
        fs.resolve path = .ok q ∨ ∃ r ∈ removed, fs.resolve r = .ok q ∧ fs₂.find? q = none := by
  have hdirs₀ := sameDirs_write hw₀
  have hdirs₁ := hdirs₀.trans hdrops.dirs
  refine ⟨fun r hr => ?_, fun q hq => ?_⟩
  · obtain ⟨q, hq, hnone⟩ := hdrops.gone r hr
    have hq' : fs.resolve r = .ok q := resolve_of_sameDirs hdirs₀.symm hq
    refine ⟨q, hq', ?_⟩
    -- the second write could only bring it back at the written path
    by_contra hchg
    have hpath := find?_write hw₂ (by rw [hnone]; exact hchg)
    exact hapart r hr q hq' (resolve_of_sameDirs hdirs₁.symm hpath)
  · by_cases h₂ : fs₂.find? q = fs₁.find? q
    · by_cases h₁ : fs₁.find? q = fs₀.find? q
      · -- unchanged by the removals and the second write: the first write changed it
        left
        exact find?_write hw₀ (by rw [← h₁, ← h₂]; exact hq)
      · right
        obtain ⟨hnone, r, hr, hrq⟩ := hdrops.only q h₁
        exact ⟨r, hr, resolve_of_sameDirs hdirs₀.symm hrq, h₂ ▸ hnone⟩
    · left
      exact resolve_of_sameDirs hdirs₁.symm (find?_write hw₂ h₂)

end FileSystem

end SourceAudit
