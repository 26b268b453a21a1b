import SourceAudit.Report.Naming
import SourceAudit.Batch.Collect
/-!
# When two units share a report name

A report is named after its unit's path with the extension dropped, one leading `./` removed
and every `/` and `\` turned into `_`. Each of these steps merges paths: `x.c` and `x.cpp`,
`a/b.c`, `a_b.c` and `a\b.c`, `./a.c` and `a.c`, and even `./..c` and `./...c` (the stem of
`..c` is `.`, which dropping the extension cannot cut after). So two units of one run can write
the same report (`fileName_collisions`).

What the naming does keep apart: paths `a.e` and `b.e'` with supported extensions, the same or
not, when the stems `a` and `b` differ, hold no `_` or `\`, agree on a leading `./`, and end in
a name other than `.`.

Dropping an extension works on the path's bytes, so the proof reads a path as bytes: a plain
stem is a directory part that is empty or ends in a slash, then a name without slashes, and
the UTF-8 bytes of a character are an ASCII byte only for that ASCII character.

* `Path.parts_append_run`, `Path.dropExtension_bytes`: the parts of a path and its extension
  cut, on bytes.
* `PlainStem`, `dropExtension_plainStem`: dropping the extension of `a.e` gives `a` back.
* `Report.fileName_collisions`: report names that collide.
* **`Report.fileName_ne_of_plainStem`**: report names that do not.
-/

namespace SourceAudit

/-! ### Text as UTF-8 bytes -/

theorem ByteArray.toList_loop (bs : ByteArray) :
    ∀ i r, ByteArray.toList.loop bs i r = r.reverse ++ bs.data.toList.drop i := by
  intro i r
  fun_induction ByteArray.toList.loop bs i r with
  | case1 i r hi ih =>
    rw [ih, List.reverse_cons, List.append_assoc]
    congr 1
    have hi' : i < bs.data.toList.length := by simpa using hi
    rw [List.drop_eq_getElem_cons hi']
    simp [ByteArray.get!, hi]
  | case2 i r hi =>
    have : bs.data.toList.length ≤ i := by simp; omega
    simp [List.drop_eq_nil_of_le this]

theorem ByteArray.toList_eq_data (bs : ByteArray) : bs.toList = bs.data.toList := by
  rw [ByteArray.toList, ByteArray.toList_loop, List.reverse_nil, List.nil_append, List.drop_zero]

/-- The bytes of a text are the UTF-8 bytes of its characters, one after another. -/
theorem toList_toUTF8 (s : String) : s.toUTF8.toList = s.toList.flatMap String.utf8EncodeChar := by
  rw [ByteArray.toList_eq_data, String.toUTF8_eq_toByteArray, ← String.utf8Encode_toList,
    List.utf8Encode, List.toList_data_toByteArray]

theorem Path.textOf_toUTF8 (s : String) : Path.textOf s.toUTF8.toList = s := by
  have hvalid : ByteArray.IsValidUTF8 s.toByteArray := s.isValidUTF8
  simp only [Path.textOf, ByteArray.toList_eq_data, String.toUTF8_eq_toByteArray,
    Array.toArray_toList, String.fromUTF8?, hvalid, dite_true, Option.getD_some]
  rfl

/-- An ASCII byte in the UTF-8 bytes of a character is that character: every byte of a longer
encoding is 128 or more. -/
theorem eq_of_mem_utf8EncodeChar {c : Char} {b : UInt8} (hb : b ∈ String.utf8EncodeChar c)
    (h : b.toNat < 128) : c.toNat = b.toNat := by
  unfold String.utf8EncodeChar at hb
  simp only at hb
  split at hb
  · rw [List.mem_singleton] at hb
    subst hb
    rw [UInt8.toNat_ofNat']
    show c.val.toNat = _
    omega
  · split at hb
    · simp at hb
      rcases hb with rfl | rfl <;> simp at h <;> omega
    · split at hb
      · simp at hb
        rcases hb with rfl | rfl | rfl <;> simp at h <;> omega
      · simp at hb
        rcases hb with rfl | rfl | rfl | rfl <;> simp at h <;> omega

theorem eq_of_mem_utf8Encode {cs : List Char} {c : Char} {b : UInt8}
    (hb : b ∈ cs.flatMap String.utf8EncodeChar) (hc : b.toNat = c.toNat) (hasc : c.toNat < 128) :
    c ∈ cs := by
  obtain ⟨d, hd, hbd⟩ := List.mem_flatMap.mp hb
  have := eq_of_mem_utf8EncodeChar hbd (by omega)
  rwa [Char.toNat_inj.mp (this.trans hc)] at hd

namespace Path

/-! ### The parts of a path, on bytes -/

/-- One byte of the fold in `parts`: a slash ends the part being read, any other byte extends
it or starts one at the current offset. -/
def partsStep (acc : Nat × List (Nat × List UInt8) × Option (Nat × List UInt8)) (b : UInt8) :
    Nat × List (Nat × List UInt8) × Option (Nat × List UInt8) :=
  let (i, done, cur) := acc
  if b == slash then
    match cur with
    | some (s, run) => (i + 1, (s, run.reverse) :: done, none)
    | none => (i + 1, done, none)
  else
    match cur with
    | some (s, run) => (i + 1, done, some (s, b :: run))
    | none => (i + 1, done, some (i, [b]))

theorem parts_eq (bs : List UInt8) :
    parts bs =
      let (_, done, cur) := bs.foldl partsStep (0, [], none)
      (match cur with
        | some (s, run) => (s, run.reverse) :: done
        | none => done).reverse := rfl

/-- The fold counts the bytes it reads. -/
theorem foldl_partsStep_offset (bs : List UInt8) :
    ∀ acc, (bs.foldl partsStep acc).1 = acc.1 + bs.length := by
  induction bs with
  | nil => intro acc; rfl
  | cons b bs ih =>
    intro acc
    obtain ⟨i, done, cur⟩ := acc
    rw [List.foldl_cons, ih]
    have hstep : (partsStep (i, done, cur) b).1 = i + 1 := by
      unfold partsStep
      dsimp only
      split <;> cases cur <;> rfl
    rw [hstep, List.length_cons]
    omega

/-- Bytes without a slash extend the part being read. -/
theorem foldl_partsStep_run (R : List UInt8) (hR : slash ∉ R) :
    ∀ i done s run, R.foldl partsStep (i, done, some (s, run)) =
      (i + R.length, done, some (s, R.reverse ++ run)) := by
  induction R with
  | nil => intro i done s run; rfl
  | cons b R ih =>
    intro i done s run
    have hb : b ≠ slash := fun h => hR (h ▸ List.mem_cons_self)
    rw [List.foldl_cons]
    have hstep : partsStep (i, done, some (s, run)) b = (i + 1, done, some (s, b :: run)) := by
      simp [partsStep, hb]
    rw [hstep, ih (fun h => hR (List.mem_cons_of_mem b h))]
    simp only [List.length_cons, List.reverse_cons, List.append_assoc, List.singleton_append]
    congr 1
    omega

/-- A path that is empty or ends in a slash leaves no part being read. -/
theorem foldl_partsStep_dir (P : List UInt8) (hP : P = [] ∨ P.getLast? = some slash) :
    ∃ done, P.foldl partsStep (0, [], none) = (P.length, done, none) := by
  rcases hP with rfl | hP
  · exact ⟨[], rfl⟩
  · obtain ⟨P', rfl⟩ := List.getLast?_eq_some_iff.mp hP
    rw [List.foldl_append]
    rcases hacc : P'.foldl partsStep (0, [], none) with ⟨i, done, cur⟩
    have hi : i = P'.length := by
      have := foldl_partsStep_offset P' (0, [], none)
      rw [hacc] at this
      simpa using this
    subst hi
    cases cur with
    | none => exact ⟨done, by simp [partsStep]⟩
    | some sr =>
      obtain ⟨s, run⟩ := sr
      exact ⟨(s, run.reverse) :: done, by simp [partsStep]⟩

/-- **A name after a directory part is the path's last part**, at the directory part's
length. -/
theorem parts_append_run {P R : List UInt8} (hP : P = [] ∨ P.getLast? = some slash)
    (hR : R ≠ []) (hs : slash ∉ R) : parts (P ++ R) = parts P ++ [(P.length, R)] := by
  obtain ⟨done, hd⟩ := foldl_partsStep_dir P hP
  obtain ⟨b, R', rfl⟩ := List.exists_cons_of_ne_nil hR
  have hb : b ≠ slash := fun h => hs (h ▸ List.mem_cons_self)
  have hrun := foldl_partsStep_run R' (fun h => hs (List.mem_cons_of_mem b h)) (P.length + 1)
    done P.length [b]
  rw [parts_eq, parts_eq, List.foldl_append, hd, List.foldl_cons]
  simp only [partsStep, beq_iff_eq, hb, if_false]
  rw [hrun]
  simp

theorem fileNameSpan_append_run {P R : List UInt8} (hP : P = [] ∨ P.getLast? = some slash)
    (hR : R ≠ []) (hs : slash ∉ R) (hdot : R ≠ [dot]) (hdots : R ≠ [dot, dot]) :
    fileNameSpan (P ++ R) = some (P.length, R) := by
  rw [fileNameSpan, parts_append_run hP hR hs, List.filter_append]
  simp [hdot, hdots]

/-! ### Stems and extensions, on bytes -/

theorem findIdx?_dot_reverse {L E : List UInt8} (hdot : dot ∉ E) :
    (L ++ dot :: E).reverse.findIdx? (· == dot) = some E.length := by
  have hE : E.reverse.findIdx? (· == dot) = none := by
    rw [List.findIdx?_eq_none_iff]
    intro x hx
    have : x ≠ dot := fun h => hdot (h ▸ List.mem_reverse.mp hx)
    simpa using this
  simp [List.reverse_append, List.findIdx?_append, hE, List.findIdx?_cons]

/-- A name with a dot and a dotless extension after it splits there. -/
theorem splitAtDot_append {L E : List UInt8} (hL : L ≠ []) (hE : E ≠ []) (hdot : dot ∉ E) :
    splitAtDot (L ++ dot :: E) = (some L, some E) := by
  have hlen : (L ++ dot :: E).length = L.length + 1 + E.length := by simp; omega
  have hne : (L ++ dot :: E == [dot, dot]) = false := by
    have hE' := List.length_pos_iff.mpr hE
    have hL' := List.length_pos_iff.mpr hL
    rw [beq_eq_false_iff_ne]
    exact ne_of_apply_ne List.length (by simp; omega)
  rw [splitAtDot, hne, findIdx?_dot_reverse hdot, hlen]
  simp [hL]

/-- A name ending in a dot splits before it, with an empty extension, unless it is `..`. -/
theorem splitAtDot_trailing {L : List UInt8} (hL : L ≠ []) (hdot : L ≠ [dot]) :
    splitAtDot (L ++ [dot]) = (some L, some []) := by
  have hne : (L ++ [dot] == [dot, dot]) = false := by
    simp only [beq_eq_false_iff_ne]
    intro h
    exact hdot (List.append_inj_left' h rfl)
  rw [splitAtDot, hne, findIdx?_dot_reverse (E := []) List.not_mem_nil]
  simp [hL]

theorem extensionOf_append {L E : List UInt8} (hL : L ≠ []) (hE : E ≠ []) (hdot : dot ∉ E) :
    extensionOf (L ++ dot :: E) = some E := by
  rw [extensionOf, splitAtDot_append hL hE hdot]

theorem stemOf_trailing {L : List UInt8} (hL : L ≠ []) (hdot : L ≠ [dot]) :
    stemOf (L ++ [dot]) = L := by
  rw [stemOf, splitAtDot_trailing hL hdot]

/-- **Dropping the extension of a path `P L . E`**, on bytes: the extension's bytes are cut,
leaving `P L .`, whose stem `L` ends the result. -/
theorem dropExtension_bytes {P L E : List UInt8} {p : String}
    (hp : p.toUTF8.toList = P ++ L ++ dot :: E) (hP : P = [] ∨ P.getLast? = some slash)
    (hL : L ≠ []) (hLs : slash ∉ L) (hLd : L ≠ [dot]) (hE : E ≠ []) (hEd : dot ∉ E)
    (hEs : slash ∉ E) :
    dropExtension p = textOf (P ++ L) := by
  have hslash : slash ∉ L ++ dot :: E := by
    simp only [List.mem_append, List.mem_cons, not_or]
    exact ⟨hLs, by decide, hEs⟩
  have hlenL := List.length_pos_iff.mpr hL
  have hlenE := List.length_pos_iff.mpr hE
  have hspan : fileNameSpan (P ++ (L ++ dot :: E)) = some (P.length, L ++ dot :: E) := by
    -- the name is longer than `.` and `..`
    refine fileNameSpan_append_run hP (by simp) hslash ?_ ?_
    · exact ne_of_apply_ne List.length (by simp; omega)
    · exact ne_of_apply_ne List.length (by simp; omega)
  -- the extension's bytes come off first, then the cut after the stem takes the dot
  have htrim : (P ++ L ++ dot :: E).take ((P ++ L ++ dot :: E).length - E.length) =
      P ++ (L ++ [dot]) := by
    rw [show (P ++ L ++ dot :: E).length - E.length = (P ++ (L ++ [dot])).length by simp; omega,
      show P ++ L ++ dot :: E = P ++ (L ++ [dot]) ++ E by simp, List.take_left]
  have hcut : cutAfterStem (P ++ (L ++ [dot])) = P ++ L := by
    have hs : slash ∉ L ++ [dot] := by
      simp only [List.mem_append, List.mem_singleton, not_or]
      exact ⟨hLs, by decide⟩
    have hd : L ++ [dot] ≠ [dot] := ne_of_apply_ne List.length (by simp; omega)
    have hdd : L ++ [dot] ≠ [dot, dot] := fun h => hLd (List.append_inj_left' h rfl)
    rw [cutAfterStem, fileNameSpan_append_run hP (by simp) hs hd hdd]
    dsimp only
    rw [stemOf_trailing hL hLd, ← List.append_assoc, List.take_left' (by simp)]
  unfold dropExtension
  dsimp only
  rw [hp, show P ++ L ++ dot :: E = P ++ (L ++ dot :: E) by simp, hspan]
  simp only [Option.bind_some, extensionOf_append hL hE hEd]
  rw [← show P ++ L ++ dot :: E = P ++ (L ++ dot :: E) by simp, htrim, hcut]

end Path

/-! ### Plain stems -/

open SourceAudit.Path

/-- A path up to the dot of its extension, as report names keep it apart from others: no `_`
and no `\` in it, and after its last `/` a name that is neither empty nor `.`. -/
structure PlainStem (a : String) : Prop where
  no_underscore : '_' ∉ a.toList
  no_backslash : '\\' ∉ a.toList
  split : ∃ dir name, a.toList = dir ++ name ∧ (dir = [] ∨ dir.getLast? = some '/') ∧
    name ≠ [] ∧ '/' ∉ name ∧ name ≠ ['.']

/-- The bytes of a plain stem: a directory part that is empty or ends in a slash, then a name
with no slash that is neither empty nor a lone dot. -/
theorem PlainStem.bytes {a : String} (h : PlainStem a) :
    ∃ P L, a.toUTF8.toList = P ++ L ∧ (P = [] ∨ P.getLast? = some slash) ∧ L ≠ [] ∧
      slash ∉ L ∧ L ≠ [dot] := by
  obtain ⟨dir, name, hsplit, hdir, hne, hslash, hdot⟩ := h.split
  refine ⟨dir.flatMap String.utf8EncodeChar, name.flatMap String.utf8EncodeChar, ?_, ?_, ?_, ?_, ?_⟩
  · rw [toList_toUTF8, hsplit, List.flatMap_append]
  · rcases hdir with rfl | hlast
    · exact .inl rfl
    · obtain ⟨d, rfl⟩ := List.getLast?_eq_some_iff.mp hlast
      right
      simp [List.flatMap_append]
      rfl
  · obtain ⟨c, rest, rfl⟩ := List.exists_cons_of_ne_nil hne
    simp [String.utf8EncodeChar_ne_nil]
  · intro hL
    exact hslash (eq_of_mem_utf8Encode hL rfl (by decide))
  · -- bytes `[.]` can only come from the name `.`
    intro hL
    obtain ⟨c, rest, rfl⟩ := List.exists_cons_of_ne_nil hne
    rw [List.flatMap_cons] at hL
    obtain ⟨hc, hrest⟩ := List.append_eq_singleton_iff.mp hL |>.resolve_left
      (fun h => String.utf8EncodeChar_ne_nil h.1)
    have hcdot : c = '.' :=
      Char.toNat_inj.mp (eq_of_mem_utf8EncodeChar (hc ▸ List.mem_singleton_self dot) (by decide))
    have hnil : rest = [] := by
      cases rest with
      | nil => rfl
      | cons d ds => simp [String.utf8EncodeChar_ne_nil] at hrest
    exact hdot (by rw [hcdot, hnil])

/-- The bytes of a supported extension: not empty, no dot, no slash. -/
theorem supported_bytes : ∀ e ∈ Syntax.Dialect.supportedExtensions,
    e.toUTF8.toList ≠ [] ∧ dot ∉ e.toUTF8.toList ∧ slash ∉ e.toUTF8.toList := by
  decide +kernel

/-- **Dropping the extension of `a.e`** gives `a` back, for a plain stem and a supported
extension. -/
theorem dropExtension_plainStem {a e : String} (ha : PlainStem a)
    (he : e ∈ Syntax.Dialect.supportedExtensions) : dropExtension (a ++ "." ++ e) = a := by
  obtain ⟨P, L, hbytes, hP, hL, hLs, hLd⟩ := ha.bytes
  obtain ⟨hE, hEd, hEs⟩ := supported_bytes e he
  have hp : (a ++ "." ++ e).toUTF8.toList = P ++ L ++ dot :: e.toUTF8.toList := by
    have hdot : ".".toList.flatMap String.utf8EncodeChar = [dot] := rfl
    rw [toList_toUTF8, String.toList_append, String.toList_append, List.flatMap_append,
      List.flatMap_append, hdot, ← toList_toUTF8, hbytes, toList_toUTF8 e]
    simp
  rw [dropExtension_bytes hp hP hL hLs hLd hE hEd hEs, ← hbytes, textOf_toUTF8]

namespace Report

/-! ### Report names -/

/-- Flattening separators loses nothing on text without `_` or `\`. -/
theorem map_flattenChar_inj : ∀ {xs ys : List Char}, '_' ∉ xs → '\\' ∉ xs → '_' ∉ ys →
    '\\' ∉ ys → xs.map flattenChar = ys.map flattenChar → xs = ys
  | [], [], _, _, _, _, _ => rfl
  | [], _ :: _, _, _, _, _, h => by simp at h
  | _ :: _, [], _, _, _, _, h => by simp at h
  | x :: xs, y :: ys, hx, hx', hy, hy', h => by
    simp only [List.map_cons, List.cons.injEq] at h
    simp only [List.mem_cons, not_or] at hx hx' hy hy'
    obtain ⟨hxy, hrest⟩ := h
    have hc : x = y := by
      have hx1 : x ≠ '_' := fun h => hx.1 h.symm
      have hx2 : x ≠ '\\' := fun h => hx'.1 h.symm
      have hy1 : y ≠ '_' := fun h => hy.1 h.symm
      have hy2 : y ≠ '\\' := fun h => hy'.1 h.symm
      unfold flattenChar at hxy
      by_cases h1 : x = '/' <;> by_cases h2 : y = '/' <;> simp_all
    rw [hc, map_flattenChar_inj hx.2 hx'.2 hy.2 hy'.2 hrest]

theorem toList_dropCurrentPrefix (s : String) :
    (dropCurrentPrefix s).toList = if ['.', '/'] <+: s.toList then s.toList.drop 2 else s.toList := by
  unfold dropCurrentPrefix
  split
  · rename_i rest h
    simp [h, String.toList_ofList]
  · rename_i h
    split
    · rename_i hp
      obtain ⟨t, ht⟩ := hp
      exact absurd (ht ▸ rfl) (h t)
    · rfl

theorem mem_of_mem_dropCurrentPrefix {s : String} {c : Char}
    (h : c ∈ (dropCurrentPrefix s).toList) : c ∈ s.toList := by
  rw [toList_dropCurrentPrefix] at h
  split at h
  · exact List.mem_of_mem_drop h
  · exact h

/-- A plain stem keeps no `_` and no `\` once its leading `./` is dropped. -/
theorem plain_dropCurrentPrefix {a : String} (ha : PlainStem a) :
    '_' ∉ (dropCurrentPrefix a).toList ∧ '\\' ∉ (dropCurrentPrefix a).toList :=
  ⟨fun hm => ha.no_underscore (mem_of_mem_dropCurrentPrefix hm),
    fun hm => ha.no_backslash (mem_of_mem_dropCurrentPrefix hm)⟩

/-- Dropping a leading `./` from both or from neither of two paths keeps them apart. -/
theorem dropCurrentPrefix_inj {a b : String}
    (hcur : ['.', '/'] <+: a.toList ↔ ['.', '/'] <+: b.toList)
    (h : (dropCurrentPrefix a).toList = (dropCurrentPrefix b).toList) : a = b := by
  rw [toList_dropCurrentPrefix, toList_dropCurrentPrefix] at h
  apply String.toList_injective
  by_cases ha : ['.', '/'] <+: a.toList
  · have hb := hcur.mp ha
    rw [if_pos ha, if_pos hb] at h
    obtain ⟨s, hs⟩ := ha
    obtain ⟨t, ht⟩ := hb
    rw [← hs, ← ht] at h ⊢
    simp only [List.cons_append, List.nil_append, List.drop_succ_cons, List.drop_zero] at h
    rw [h]
  · rw [if_neg ha, if_neg (mt hcur.mpr ha)] at h
    exact h

/-- **Report names collide.** Each pair below is two supported paths that one run collects
together (a walk of `.`, and `a.c` given as well), yet they share their report: the extension,
`/` against `_` or `\`, the leading `./`, and the name `..` are lost. -/
theorem fileName_collisions :
    ["./a.c", "./a.cpp", "./a/b.c", "./a_b.c", "./a\\b.c", "a.c", "./..c", "./...c"].all
      Batch.isSupported ∧
    fileName "./a.c" .halstead = fileName "./a.cpp" .halstead ∧
    fileName "./a/b.c" .halstead = fileName "./a_b.c" .halstead ∧
    fileName "./a/b.c" .halstead = fileName "./a\\b.c" .halstead ∧
    fileName "./a.c" .halstead = fileName "a.c" .halstead ∧
    fileName "./..c" .halstead = fileName "./...c" .halstead := by
  decide +kernel

/-- **Report names keep apart what the naming does not merge.** Two paths `a.e` and `b.e'` with
supported extensions `e` and `e'` and different stems get different report names for every
pass, when neither `a` nor `b` holds `_` or `\`, both or neither begin with `./`, and each ends
in a name other than `.`. Only the stem reaches the name, so the extensions may differ. -/
theorem fileName_ne_of_plainStem {a b e e' : String} (pass : Pass)
    (he : e ∈ Syntax.Dialect.supportedExtensions) (he' : e' ∈ Syntax.Dialect.supportedExtensions)
    (ha : PlainStem a) (hb : PlainStem b)
    (hcur : ['.', '/'] <+: a.toList ↔ ['.', '/'] <+: b.toList) (hab : a ≠ b) :
    fileName (a ++ "." ++ e) pass ≠ fileName (b ++ "." ++ e') pass := by
  intro h
  rw [fileName, fileName, dropExtension_plainStem ha he, dropExtension_plainStem hb he',
    String.append_left_inj] at h
  obtain ⟨ha₁, ha₂⟩ := plain_dropCurrentPrefix ha
  obtain ⟨hb₁, hb₂⟩ := plain_dropCurrentPrefix hb
  exact hab (dropCurrentPrefix_inj hcur
    (map_flattenChar_inj ha₁ ha₂ hb₁ hb₂ (String.ofList_injective h)))

/-- Two units of one directory walk, `./src/shapes.cpp` and `./src/lines.c`, get different
reports. -/
theorem fileName_ne_shapes_lines :
    "cpp" ∈ Syntax.Dialect.supportedExtensions ∧ "c" ∈ Syntax.Dialect.supportedExtensions ∧
      PlainStem "./src/shapes" ∧ PlainStem "./src/lines" ∧
      (['.', '/'] <+: "./src/shapes".toList ↔ ['.', '/'] <+: "./src/lines".toList) ∧
      "./src/shapes" ≠ "./src/lines" ∧
      fileName ("./src/shapes" ++ "." ++ "cpp") .halstead ≠
        fileName ("./src/lines" ++ "." ++ "c") .halstead := by
  have hs : PlainStem "./src/shapes" :=
    ⟨by decide, by decide, "./src/".toList, "shapes".toList, by decide, by decide, by decide,
      by decide, by decide⟩
  have hl : PlainStem "./src/lines" :=
    ⟨by decide, by decide, "./src/".toList, "lines".toList, by decide, by decide, by decide,
      by decide, by decide⟩
  have hcur : ['.', '/'] <+: "./src/shapes".toList ↔ ['.', '/'] <+: "./src/lines".toList := by
    decide
  exact ⟨by decide, by decide, hs, hl, hcur, by decide,
    fileName_ne_of_plainStem .halstead (by decide) (by decide) hs hl hcur (by decide)⟩

end Report

end SourceAudit
