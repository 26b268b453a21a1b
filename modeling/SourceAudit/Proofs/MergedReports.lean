import SourceAudit.Report.Combine
import SourceAudit.Proofs.FileFrame
import Mathlib
/-!
# Merged reports: one header, then the rows of every input

What a merge of per-unit reports leaves behind, for every tree, project name, list of passes
and removal flag, stated without the merge's own loop:

* `Text.lines_eq_readLines`: the lines of a text are those a line reader returns, reading one
  character at a time: a line feed ends a line and takes one carriage return before it along,
  and text after the last line feed is a last line.
* `PassMerged`: one pass. Its inputs are the regular files listed in the directory whose name
  ends with the pass's suffix, in ascending name order. Without inputs nothing changes;
  otherwise `<project>-<pass>.csv` reads as the header joined by `", "`, then every line of
  every input after its first that is not blank, each ended by a line feed. The report counts
  the inputs with rows, those without, and the rows; the inputs without rows are removed on
  request, and no other entry changes.
* `combineReports_merged`: **a merge that succeeds ran its passes in order, each as
  `PassMerged` says, against the tree the passes before it left.** The merged file of a pass
  is never one of its inputs, whatever the project name: its name ends with `-<pass>.csv`,
  which no input suffix does (`merged_ne_input`).
-/

namespace SourceAudit

/-! ### Reading lines -/

namespace Text

/-- A line ended by a line feed loses one carriage return at its end. -/
def stripReturn (cs : List Char) : List Char :=
  if cs.getLast? = some '\r' then cs.dropLast else cs

/-- **Lines read one character at a time**, as a buffered reader returns them: `cur` is the line
read so far; a line feed ends it, and what is left at the end is a last line unless empty. -/
def readLines (cur : List Char) : List Char → List String
  | [] => if cur.isEmpty then [] else [String.ofList cur]
  | c :: rest =>
    if c = '\n' then String.ofList (stripReturn cur) :: readLines [] rest
    else readLines (cur ++ [c]) rest

theorem dropReturn_ofList (cs : List Char) :
    dropReturn (String.ofList cs) = String.ofList (stripReturn cs) := by
  have hend : (String.ofList cs).endsWith "\r" = true ↔ cs.getLast? = some '\r' := by
    rw [String.endsWith_eq_endsWith_toSlice, String.Slice.endsWith_string_iff,
      ← List.singleton_suffix_iff_getLast?_eq_some]
    simp
  unfold dropReturn stripReturn
  by_cases h : cs.getLast? = some '\r'
  · rw [if_pos (hend.mpr h), if_pos h, ← String.toList_inj]
    simp [String.Slice.toString_eq, List.dropLast_eq_take]
  · rw [if_neg (mt hend.mp h), if_neg h]

/-- A text without a line feed is one line, or none when empty. -/
theorem lines_of_not_mem {cs : List Char} (h : '\n' ∉ cs) :
    lines (String.ofList cs) = if cs.isEmpty then [] else [String.ofList cs] := by
  simp [lines, List.splitOn_eq_singleton h]

/-- The first line feed ends the first line. -/
theorem lines_append_newline {cur : List Char} (h : '\n' ∉ cur) (rest : List Char) :
    lines (String.ofList (cur ++ '\n' :: rest)) =
      String.ofList (stripReturn cur) :: lines (String.ofList rest) := by
  simp only [lines, String.toList_ofList, List.splitOn_append_cons_self_of_not_mem h,
    List.map_cons]
  -- the pieces after the first line feed are never empty, so the first piece is not the last
  have hne : (rest.splitOn '\n').map String.ofList ≠ [] := by simp
  obtain ⟨last, hlast⟩ := Option.isSome_iff_exists.mp (List.getLast?_isSome.mpr hne)
  have hcons :
      (String.ofList cur :: (rest.splitOn '\n').map String.ofList).getLast? = some last := by
    simp [List.getLast?_cons, hlast]
  rw [List.dropLast_cons_of_ne_nil hne, hcons, hlast, List.map_cons, dropReturn_ofList]
  by_cases hl : last.isEmpty = true <;> simp [hl]

theorem readLines_eq_lines {cur : List Char} (h : '\n' ∉ cur) (cs : List Char) :
    readLines cur cs = lines (String.ofList (cur ++ cs)) := by
  induction cs generalizing cur with
  | nil => simp [readLines, lines_of_not_mem h]
  | cons c rest ih =>
    by_cases hc : c = '\n'
    · subst hc
      rw [lines_append_newline h]
      simp [readLines, ih List.not_mem_nil]
    · have h' : '\n' ∉ cur ++ [c] := by simp [h, Ne.symm hc]
      simp [readLines, hc, ih h']

/-- **The lines of a text are those a line reader returns.** -/
theorem lines_eq_readLines (s : String) : lines s = readLines [] s.toList := by
  simp [readLines_eq_lines List.not_mem_nil]

end Text

/-! ### What a merge should do -/

/-- Whether an entry is a regular file. -/
def Entry.isFile : Entry → Bool
  | .file _ => true
  | .dir => false

/-- The rows a report contributes: its lines after the first, leaving out blank ones. -/
def rowsOf (text : String) : List String :=
  ((Text.readLines [] text.toList).drop 1).filter fun l => !Text.isBlankText l

/-- The file a pass merges into. -/
def mergedPath (dir project : String) (pass : Pass) : String :=
  Path.join dir (project ++ "-" ++ pass.name ++ ".csv")

/-- The merged text: the header, then every row of every input, each line ended by a line
feed. -/
def mergedText (pass : Pass) (texts : List String) : String :=
  ", ".intercalate pass.header ++ "\n" ++ String.join ((texts.flatMap rowsOf).map (· ++ "\n"))

/-- What merging the input `texts` reports. -/
def mergedReport (dir project : String) (pass : Pass) (texts : List String) : CombinedReport where
  pass := pass
  path := mergedPath dir project pass
  inputs := texts.countP fun t => !(rowsOf t).isEmpty
  skipped := texts.countP fun t => (rowsOf t).isEmpty
  rows := (texts.flatMap rowsOf).length

/-- The inputs a merge removes: those without rows, when asked to. -/
def emptyInputs (removeEmpty : Bool) (inputs texts : List String) : List String :=
  if removeEmpty then ((inputs.zip texts).filter fun it => (rowsOf it.2).isEmpty).map (·.1)
  else []

/-- The per-unit reports of a pass in `dir`: the paths of the regular files listed there whose
name ends with the pass's suffix, in ascending name order. -/
def ReportInputs (fs : FileSystem) (dir : String) (pass : Pass) (inputs : List String) : Prop :=
  ∃ es, ∃ names : List String, fs.list dir = .ok es ∧
    names.Perm ((es.filter fun e => e.2.isFile && e.1.endsWith pass.suffix).map (·.1)) ∧
    names.Pairwise (· ≤ ·) ∧ inputs = names.map (Path.join dir)

/-- **What one pass of a merge does** to the tree `fs` and the summary so far. -/
inductive PassMerged (dir project : String) (removeEmpty : Bool) (pass : Pass) (fs : FileSystem)
    (summary : CombineSummary) : FileSystem → CombineSummary → Prop
  /-- Without inputs, nothing is written and nothing reported. -/
  | none : ReportInputs fs dir pass [] → PassMerged dir project removeEmpty pass fs summary fs summary
  /-- The inputs, which read as `texts`, are merged into the pass's file. -/
  | merged {inputs texts : List String} {fs' : FileSystem} :
      ReportInputs fs dir pass inputs → inputs ≠ [] →
      List.Forall₂ (fun i t => fs.read i = .ok t) inputs texts →
      fs'.read (mergedPath dir project pass) = .ok (mergedText pass texts) →
      (∀ r ∈ emptyInputs removeEmpty inputs texts,
        ∃ q, fs.resolve r = .ok q ∧ fs'.find? q = none) →
      (∀ q, fs'.find? q ≠ fs.find? q → fs.resolve (mergedPath dir project pass) = .ok q ∨
        ∃ r ∈ emptyInputs removeEmpty inputs texts, fs.resolve r = .ok q ∧ fs'.find? q = none) →
      PassMerged dir project removeEmpty pass fs summary fs'
        ⟨summary.reports ++ [mergedReport dir project pass texts],
          summary.removed ++ emptyInputs removeEmpty inputs texts⟩

/-- The passes run in order, each against the tree the ones before it left. -/
inductive Merged (dir project : String) (removeEmpty : Bool) :
    FileSystem → CombineSummary → List Pass → FileSystem → CombineSummary → Prop
  | nil {fs summary} : Merged dir project removeEmpty fs summary [] fs summary
  | cons {fs fs₁ fs' summary summary₁ summary' pass passes} :
      PassMerged dir project removeEmpty pass fs summary fs₁ summary₁ →
      Merged dir project removeEmpty fs₁ summary₁ passes fs' summary' →
      Merged dir project removeEmpty fs summary (pass :: passes) fs' summary'

/-! ### Rows and the listing -/

theorem reportRows_eq_rowsOf : reportRows = rowsOf := by
  funext text
  simp [reportRows, rowsOf, Text.lines_eq_readLines]

theorem filterMap_reportName (pass : Pass) (es : List (String × Entry)) :
    es.filterMap (fun (n, e) => match e with
      | .file _ => if n.endsWith pass.suffix then some n else none
      | .dir => none) =
      (es.filter fun e => e.2.isFile && e.1.endsWith pass.suffix).map (·.1) := by
  induction es with
  | nil => rfl
  | cons e es ih =>
    obtain ⟨n, e⟩ := e
    cases e with
    | file c => by_cases h : n.endsWith pass.suffix = true <;> simp [Entry.isFile, h, ih]
    | dir => simp [Entry.isFile, ih]

theorem pairwise_mergeSort_le (l : List String) :
    (l.mergeSort fun a b => decide (a ≤ b)).Pairwise (· ≤ ·) := by
  have h : (l.mergeSort fun a b => decide (a ≤ b)).Pairwise fun a b => decide (a ≤ b) = true :=
    List.pairwise_mergeSort
      (fun a b c hab hbc => by simp only [decide_eq_true_eq] at *; exact le_trans hab hbc)
      (fun a b => by simpa using le_total a b) l
  exact h.imp (by simp)

/-- The listing step finds the inputs `ReportInputs` describes. -/
theorem unitReports_eq_ok {fs : FileSystem} {dir : String} {pass : Pass} {inputs : List String}
    (h : unitReports fs dir pass = .ok inputs) : ReportInputs fs dir pass inputs := by
  simp only [unitReports, bind_eq_ok, pure_eq_ok] at h
  obtain ⟨es, hes, rfl⟩ := h
  refine ⟨es, _, hes, ?_, pairwise_mergeSort_le _, rfl⟩
  rw [← filterMap_reportName]
  exact List.mergeSort_perm _ _

theorem ReportInputs.endsWith {fs : FileSystem} {dir : String} {pass : Pass}
    {inputs : List String} (h : ReportInputs fs dir pass inputs) {i : String} (hi : i ∈ inputs) :
    ∃ n, i = Path.join dir n ∧ n.endsWith pass.suffix = true := by
  obtain ⟨es, names, -, hperm, -, rfl⟩ := h
  obtain ⟨n, hn, rfl⟩ := List.mem_map.mp hi
  obtain ⟨e, he, rfl⟩ := List.mem_map.mp (hperm.subset hn)
  exact ⟨e.1, rfl, (Bool.and_eq_true _ _ ▸ (List.mem_filter.mp he).2).2⟩

/-! ### The merged file is never an input -/

theorem endsWith_iff_suffix {s t : String} : s.endsWith t = true ↔ t.toList <:+ s.toList := by
  rw [String.endsWith_eq_endsWith_toSlice, String.Slice.endsWith_string_iff]
  simp

theorem suffix_join (dir p : String) : p.toList <:+ (Path.join dir p).toList := by
  unfold Path.join
  split_ifs
  · exact List.suffix_refl _
  · simp
  · simpa using List.suffix_append (dir.toList ++ ['/']) p.toList

/-- The endings of the merged file and of the inputs, for each pass: neither has a `/`, and the
merged file's is no ending of the inputs'. -/
theorem pass_endings_apart (pass : Pass) :
    '/' ∉ ("-" ++ pass.name ++ ".csv").toList ∧ 3 ≤ ("-" ++ pass.name ++ ".csv").toList.length ∧
      '/' ∉ pass.suffix.toList ∧ 3 ≤ pass.suffix.toList.length ∧
      ("-" ++ pass.name ++ ".csv").toList.length ≤ pass.suffix.toList.length ∧
      ¬("-" ++ pass.name ++ ".csv").toList <:+ pass.suffix.toList := by
  cases pass <;> decide

/-- **The merged file is never an input of its pass**, whatever the directory and the project
name: the two resolve to different paths. -/
theorem merged_ne_input {fs : FileSystem} {dir project n : String} {pass : Pass} {q : List String}
    (hn : n.endsWith pass.suffix = true) (hout : fs.resolve (mergedPath dir project pass) = .ok q) :
    fs.resolve (Path.join dir n) ≠ .ok q := by
  intro hin
  obtain ⟨hslash₁, hlen₁, hslash₂, hlen₂, hle, hapart⟩ := pass_endings_apart pass
  have hend₁ : ("-" ++ pass.name ++ ".csv").toList <:+ (mergedPath dir project pass).toList := by
    refine List.IsSuffix.trans ?_ (suffix_join _ _)
    simp only [String.toList_append, List.append_assoc]
    exact List.suffix_append _ _
  have hend₂ := (endsWith_iff_suffix.mp hn).trans (suffix_join dir n)
  -- both paths end in the same last name, which would have to end with both endings
  obtain ⟨q₁, x₁, rfl, hx₁⟩ := FileSystem.resolve_last_of_suffix hout hend₁ hslash₁ hlen₁
  obtain ⟨q₂, x₂, heq, hx₂⟩ := FileSystem.resolve_last_of_suffix hin hend₂ hslash₂ hlen₂
  obtain ⟨-, hx⟩ := List.append_inj' heq rfl
  obtain rfl : x₁ = x₂ := List.singleton_inj.mp hx
  exact hapart (List.suffix_of_suffix_length_le hx₁ hx₂ hle)

/-! ### Merging the inputs of one pass -/

/-- A report with the counts of more inputs added. -/
def CombinedReport.tally (r : CombinedReport) (texts : List String) : CombinedReport where
  pass := r.pass
  path := r.path
  inputs := r.inputs + texts.countP fun t => !(rowsOf t).isEmpty
  skipped := r.skipped + texts.countP fun t => (rowsOf t).isEmpty
  rows := r.rows + (texts.flatMap rowsOf).length

theorem CombinedReport.tally_nil (r : CombinedReport) : r.tally [] = r := by
  simp [tally]

theorem CombinedReport.tally_cons_of_isEmpty (r : CombinedReport) {t : String}
    (h : (rowsOf t).isEmpty = true) (ts : List String) :
    r.tally (t :: ts) = ({ r with skipped := r.skipped + 1 } : CombinedReport).tally ts := by
  simp [tally, List.isEmpty_iff.mp h]
  omega

theorem CombinedReport.tally_cons_of_rows (r : CombinedReport) {t : String}
    (h : (rowsOf t).isEmpty = false) (ts : List String) :
    r.tally (t :: ts) =
      ({ r with inputs := r.inputs + 1, rows := r.rows + (rowsOf t).length } : CombinedReport).tally
        ts := by
  simp [tally, h]
  omega

theorem emptyInputs_nil (removeEmpty : Bool) (texts : List String) :
    emptyInputs removeEmpty [] texts = [] := by
  cases removeEmpty <;> simp [emptyInputs]

theorem emptyInputs_cons (removeEmpty : Bool) (i : String) (is : List String) (t : String)
    (ts : List String) :
    emptyInputs removeEmpty (i :: is) (t :: ts) =
      if removeEmpty && (rowsOf t).isEmpty then i :: emptyInputs removeEmpty is ts
      else emptyInputs removeEmpty is ts := by
  cases removeEmpty <;> by_cases h : (rowsOf t).isEmpty = true <;> simp [emptyInputs, h]

theorem mem_of_mem_emptyInputs {removeEmpty : Bool} {inputs texts : List String} {r : String}
    (hr : r ∈ emptyInputs removeEmpty inputs texts) : r ∈ inputs := by
  cases removeEmpty
  · simp [emptyInputs] at hr
  · simp only [emptyInputs, if_true, List.mem_map, List.mem_filter] at hr
    obtain ⟨⟨r, t⟩, ⟨hrt, -⟩, rfl⟩ := hr
    exact (List.of_mem_zip hrt).1

section MergeInputs

variable {removeEmpty : Bool} {out : String} {pass : Pass}

/-- One input of a merge: it is read, then either counted as skipped (and removed on request)
or its rows are appended. -/
theorem mergeInputs_cons {input : String} {more : List String} {fs : FileSystem}
    {report : CombinedReport} {removed lines : List String}
    {result : FileSystem × CombinedReport × List String × List String}
    (h : mergeInputs removeEmpty out pass (input :: more) (fs, report, removed, lines) = .ok result) :
    ∃ t, fs.read input = .ok t ∧
      if (rowsOf t).isEmpty then
        if removeEmpty then ∃ fs₁, fs.remove input = .ok fs₁ ∧
          mergeInputs removeEmpty out pass more
            (fs₁, { report with skipped := report.skipped + 1 }, removed ++ [input], lines) = .ok result
        else mergeInputs removeEmpty out pass more
            (fs, { report with skipped := report.skipped + 1 }, removed, lines) = .ok result
      else mergeInputs removeEmpty out pass more
            (fs, { report with inputs := report.inputs + 1, rows := report.rows + (rowsOf t).length },
              removed, lines ++ rowsOf t) = .ok result := by
  simp only [mergeInputs, bind_eq_ok, reportRows_eq_rowsOf] at h
  obtain ⟨t, ht, h⟩ := h
  refine ⟨t, ht, ?_⟩
  split at h
  · rename_i hempty
    rw [if_pos hempty]
    cases removeEmpty <;> simpa using h
  · rename_i hrows
    rw [if_neg hrows]
    exact h

/-- **The inputs of a pass, merged**: each was read, in order, from the tree the merge started
from; the report counts them, the lines are their rows, and the tree lost exactly the inputs
without rows when asked to. -/
theorem mergeInputs_spec (inputs : List String) {fs fs' : FileSystem} {report report' : CombinedReport}
    {removed removed' lines lines' : List String}
    (h : mergeInputs removeEmpty out pass inputs (fs, report, removed, lines) =
      .ok (fs', report', removed', lines')) :
    ∃ texts, List.Forall₂ (fun i t => fs.read i = .ok t) inputs texts ∧
      report' = report.tally texts ∧ lines' = lines ++ texts.flatMap rowsOf ∧
      removed' = removed ++ emptyInputs removeEmpty inputs texts ∧
      FileSystem.Drops fs (emptyInputs removeEmpty inputs texts) fs' := by
  induction inputs generalizing fs report removed lines with
  | nil =>
    simp only [mergeInputs, pure_eq_ok, Prod.mk.injEq] at h
    obtain ⟨rfl, rfl, rfl, rfl⟩ := h
    exact ⟨[], .nil, (CombinedReport.tally_nil _).symm, by simp, by simp [emptyInputs_nil],
      by simpa [emptyInputs_nil] using FileSystem.Drops.refl fs⟩
  | cons input more ih =>
    obtain ⟨t, ht, h⟩ := mergeInputs_cons h
    by_cases hempty : (rowsOf t).isEmpty = true
    · rw [if_pos hempty] at h
      have hrows : rowsOf t = [] := List.isEmpty_iff.mp hempty
      cases removeEmpty
      · -- a report without rows is only counted
        obtain ⟨texts, hreads, rfl, rfl, rfl, hdrops⟩ := ih h
        refine ⟨t :: texts, .cons ht hreads, ?_, ?_, ?_, ?_⟩
        · rw [CombinedReport.tally_cons_of_isEmpty _ hempty]
        · simp [hrows]
        · simp [emptyInputs]
        · simpa [emptyInputs] using hdrops
      · -- a report without rows is removed before the next input is read
        obtain ⟨fs₁, hrm, h⟩ := h
        have hd₁ := FileSystem.drops_remove hrm
        obtain ⟨texts, hreads, rfl, rfl, rfl, hdrops⟩ := ih h
        refine ⟨t :: texts, .cons ht (hreads.imp fun _ _ => hd₁.read), ?_, ?_, ?_, ?_⟩
        · rw [CombinedReport.tally_cons_of_isEmpty _ hempty]
        · simp [hrows]
        · simp [emptyInputs_cons, hempty]
        · simpa [emptyInputs_cons, hempty] using hd₁.trans hdrops
    · have hne : (rowsOf t).isEmpty = false := by simpa using hempty
      rw [if_neg hempty] at h
      obtain ⟨texts, hreads, rfl, rfl, rfl, hdrops⟩ := ih h
      refine ⟨t :: texts, .cons ht hreads, ?_, ?_, ?_, ?_⟩
      · rw [CombinedReport.tally_cons_of_rows _ hne]
      · simp
      · simp [emptyInputs_cons, hne]
      · simpa [emptyInputs_cons, hne] using hdrops

end MergeInputs

/-! ### One pass, and the whole merge -/

section Pass

variable {dir project : String} {removeEmpty : Bool} {pass : Pass} {fs fs' : FileSystem}
  {summary summary' : CombineSummary}

/-- **One pass does what `PassMerged` says.** -/
theorem combinePass_merged
    (h : combinePass dir project removeEmpty fs summary pass = .ok (fs', summary')) :
    PassMerged dir project removeEmpty pass fs summary fs' summary' := by
  simp only [combinePass, bind_eq_ok] at h
  obtain ⟨inputs, hunits, h⟩ := h
  have hinputs := unitReports_eq_ok hunits
  split at h
  · rename_i hempty
    obtain ⟨rfl, rfl⟩ := Prod.mk.inj (pure_eq_ok.mp h)
    rw [List.isEmpty_iff.mp hempty] at hinputs
    exact .none hinputs
  rename_i hne
  simp only [bind_eq_ok] at h
  obtain ⟨fs₀, hw₀, ⟨fs₁, report, removed, lines⟩, hm, fs₂, hw₂, h⟩ := h
  obtain ⟨rfl, rfl⟩ := Prod.mk.inj (pure_eq_ok.mp h)
  obtain ⟨texts, hreads₀, rfl, rfl, rfl, hdrops⟩ := mergeInputs_spec inputs hm
  -- no input resolves to where the merged file does, so the writes leave the inputs alone
  have hapart : ∀ i ∈ inputs, ∀ q, fs.resolve i = .ok q →
      fs.resolve (mergedPath dir project pass) ≠ .ok q := by
    intro i hi q hq hout
    obtain ⟨n, rfl, hn⟩ := hinputs.endsWith hi
    exact merged_ne_input hn hout hq
  have hreads : List.Forall₂ (fun i t => fs.read i = .ok t) inputs texts :=
    ((List.forall₂_and_left _ _).mpr ⟨hapart, hreads₀⟩).imp fun _ _ h =>
      FileSystem.read_of_write hw₀ h.2 h.1
  have hframe := FileSystem.Drops.between_writes hw₀ hdrops hw₂ fun r hr =>
    hapart r (mem_of_mem_emptyInputs hr)
  have hreport : (⟨pass, Path.join dir (project ++ "-" ++ pass.name ++ ".csv"), 0, 0, 0⟩ :
      CombinedReport).tally texts = mergedReport dir project pass texts := by
    simp [CombinedReport.tally, mergedReport, mergedPath]
  simp only [List.nil_append, hreport] at hw₂ ⊢
  refine .merged hinputs (by simpa using hne) hreads ?_ hframe.1 hframe.2
  -- the last write gives the merged file its text
  rw [mergedPath, FileSystem.read_write hw₂]
  simp [mergedText, Sheet.line, String.join_cons]

end Pass

theorem combineReports_go_merged {dir project : String} {removeEmpty : Bool} :
    ∀ (passes : List Pass) {fs : FileSystem} {summary : CombineSummary},
      (combineReports.go dir project removeEmpty passes fs summary).2.isOk = true →
      ∃ summary', (combineReports.go dir project removeEmpty passes fs summary).2 = .ok summary' ∧
        Merged dir project removeEmpty fs summary passes
          (combineReports.go dir project removeEmpty passes fs summary).1 summary'
  | [], fs, summary, _ => ⟨summary, rfl, .nil⟩
  | pass :: more, fs, summary, h => by
    simp only [combineReports.go] at h ⊢
    split
    · rename_i fs₁ summary₁ hpass
      rw [hpass] at h
      obtain ⟨summary', hok, hrest⟩ := combineReports_go_merged more h
      exact ⟨summary', hok, .cons (combinePass_merged hpass) hrest⟩
    · rename_i e hpass
      rw [hpass] at h
      simp [Except.isOk, Except.toBool] at h

/-- **A merge that succeeds ran its passes in order**, each against the tree the ones before it
left, as `PassMerged` says. -/
theorem combineReports_merged {fs : FileSystem} {dir project : String} {passes : List Pass}
    {removeEmpty : Bool} (h : (combineReports fs dir project passes removeEmpty).2.isOk = true) :
    ∃ summary, (combineReports fs dir project passes removeEmpty).2 = .ok summary ∧
      Merged dir project removeEmpty fs {} passes
        (combineReports fs dir project passes removeEmpty).1 summary :=
  combineReports_go_merged passes h

/-- A directory holding a Halstead report with one row, ended by a carriage return, and a
destructor report whose only line after the header is blank, merged with empty reports removed:
the merge succeeds, so `combineReports_merged` describes it. -/
theorem combineReports_merged_two_passes :
    let fs : FileSystem := ⟨[(["r"], .dir), (["r", "b_cwe1087_metrics.csv"], .file "h\n \n"),
      (["r", "a_halstead_metrics.csv"], .file "h\n1\r\n")]⟩
    (combineReports fs "r" "p" [.halstead, .cwe1087] true).2.isOk = true ∧
      ∃ summary, (combineReports fs "r" "p" [.halstead, .cwe1087] true).2 = .ok summary ∧
        Merged "r" "p" true fs {} [.halstead, .cwe1087]
          (combineReports fs "r" "p" [.halstead, .cwe1087] true).1 summary := by
  intro fs
  have h : (combineReports fs "r" "p" [.halstead, .cwe1087] true).2.isOk = true := by
    decide +kernel
  exact ⟨h, combineReports_merged h⟩

end SourceAudit
