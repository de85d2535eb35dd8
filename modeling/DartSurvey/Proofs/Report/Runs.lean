import DartSurvey.Proofs.Report.Headings
import Mathlib.Data.List.Chain

/-!
# Runs of equal paths

The writer of a report remembers the path in its last heading and compares each record with it. So the text
formats follow the runs of a list of records, the longest stretches of neighbours with one path.

- Every list of records whose paths are texts or null falls into runs (`exists_runs`).
- Below a heading with another path, runs are written one after the other, each with one heading
  (`renderFrom_runs`).
- What is written of a second list depends on the first only by its last path (`renderFrom_append`). So the
  texts of two lists can be put together just where a new run starts (`render_append_eq_iff`).
- `write_follows_runs` says this of the writer, with the number that it counts.
-/

namespace DartSurvey.Report

/-- That the path of a record is a text or null. -/
def Record.HasPlainPath (r : Record) : Prop := ∃ path, r.path = .ofText? path

/-- A run: records with one path, which is a text or null. -/
structure Run where
  path : Option String
  records : List Record
  nonempty : records ≠ []
  path_eq : ∀ r ∈ records, r.path = .ofText? path

/-- The text of a run: one heading, and below it its records without the path. -/
def Run.text (format : Format) (run : Run) : String :=
  heading format (.ofText? run.path) ++ String.join (run.records.map fun r => r.withoutPath.render format)

/-- That runs are those of a list of records: they make it up in order, and none can be longer, since its
neighbours have other paths. -/
structure AreRunsOf (runs : List Run) (records : List Record) : Prop where
  flatten : runs.flatMap Run.records = records
  maximal : runs.IsChain fun run next => run.path ≠ next.path

theorem ofText?_injective {p q : Option String} (h : Value.ofText? p = .ofText? q) : p = q := by
  cases p <;> cases q <;> simp_all [Value.ofText?]

/-! ## Falling into runs -/

/-- A run of one record. -/
def Run.single (r : Record) {path : Option String} (h : r.path = .ofText? path) : Run where
  path
  records := [r]
  nonempty := List.cons_ne_nil r []
  path_eq r' hr' := by rw [List.mem_singleton.mp hr', h]

/-- A run with one more record of its path before it. -/
def Run.cons (r : Record) (run : Run) (h : r.path = .ofText? run.path) : Run where
  path := run.path
  records := r :: run.records
  nonempty := List.cons_ne_nil r run.records
  path_eq r' hr' := by
    rcases List.mem_cons.mp hr' with rfl | hr'
    · exact h
    · exact run.path_eq r' hr'

/-- Records whose paths are texts or null fall into runs. -/
theorem exists_runs {records : List Record} (h : ∀ r ∈ records, r.HasPlainPath) :
    ∃ runs, AreRunsOf runs records := by
  induction records with
  | nil => exact ⟨[], rfl, List.isChain_nil⟩
  | cons r rest ih =>
    obtain ⟨path, hr⟩ := h r List.mem_cons_self
    obtain ⟨runs, hflatten, hmaximal⟩ := ih fun r' hr' => h r' (List.mem_cons_of_mem r hr')
    cases runs with
    | nil =>
      refine ⟨[Run.single r hr], ?_, List.isChain_singleton _⟩
      rw [← hflatten]
      rfl
    | cons run runs =>
      rw [List.isChain_cons] at hmaximal
      obtain ⟨hnext, hruns⟩ := hmaximal
      by_cases hpath : path = run.path
      · -- the record belongs to the first run
        subst hpath
        refine ⟨Run.cons r run hr :: runs, ?_, ?_⟩
        · rw [← hflatten]
          rfl
        · exact List.isChain_cons.mpr ⟨hnext, hruns⟩
      · refine ⟨Run.single r hr :: run :: runs, ?_, ?_⟩
        · rw [← hflatten]
          rfl
        · rw [List.isChain_cons, List.isChain_cons]
          refine ⟨?_, hnext, hruns⟩
          intro next hfirst
          cases hfirst
          exact hpath

/-! ## The text of records in a row -/

section TextFormats

variable {format : Format} (hformat : format ≠ .json)

include hformat

/-- A record below a heading with another path gets one of its own. -/
theorem renderFrom_new {last : Option Value} {r : Record} (hr : r.HasPlainPath) (h : last ≠ some r.path)
    (rest : List Record) :
    renderFrom format last (r :: rest) =
      heading format r.path ++ r.render format ++ renderFrom format (some r.path) rest := by
  obtain ⟨path, hpath⟩ := hr
  have hstarts : startsSection last r.path = true := by
    rw [← Bool.not_eq_false, hpath, startsSection_eq_false_iff, ← hpath]
    exact h
  rw [renderFrom_cons hformat, if_pos hstarts]

/-- A record below a heading with its path gets none. -/
theorem renderFrom_old {r : Record} (hr : r.HasPlainPath) (rest : List Record) :
    renderFrom format (some r.path) (r :: rest) = r.render format ++ renderFrom format (some r.path) rest := by
  obtain ⟨path, hpath⟩ := hr
  have hsame : startsSection (some r.path) r.path = false := by
    rw [hpath, startsSection_eq_false_iff]
  rw [renderFrom_cons hformat, hsame, if_neg Bool.false_ne_true]

/-- Behind a heading with another path than that of the first run, each run has one heading. -/
theorem renderFrom_runs {runs : List Run} (hmaximal : runs.IsChain fun run next => run.path ≠ next.path)
    {last : Option Value} (hlast : ∀ run ∈ runs.head?, last ≠ some (.ofText? run.path)) :
    renderFrom format last (runs.flatMap Run.records) = String.join (runs.map (Run.text format)) := by
  induction runs generalizing last with
  | nil => rfl
  | cons run runs ih =>
    rw [List.isChain_cons] at hmaximal
    obtain ⟨hnext, hruns⟩ := hmaximal
    obtain ⟨r, records, hrecords⟩ := List.exists_cons_of_ne_nil run.nonempty
    have hpath := run.path_eq
    rw [hrecords] at hpath
    have hr : r.path = .ofText? run.path := hpath r List.mem_cons_self
    have hnew : last ≠ some r.path := by
      rw [hr]
      exact hlast run rfl
    have hbehind : ∀ next ∈ runs.head?, some (Value.ofText? run.path) ≠ some (.ofText? next.path) := by
      intro next hfirst heq
      exact hnext next hfirst (ofText?_injective (Option.some.inj heq))
    rw [List.flatMap_cons, hrecords, List.cons_append, renderFrom_new hformat ⟨_, hr⟩ hnew, hr,
      renderFrom_same hformat fun r' hr' => hpath r' (List.mem_cons_of_mem r hr'), ih hruns hbehind,
      List.map_cons, String.join_cons, Run.text, hrecords]
    simp only [List.map_cons, String.join_cons, Record.render_withoutPath hformat, String.append_assoc]

/-- Of the records before it, a list of records sees the last path only. -/
theorem renderFrom_append {xs : List Record} (hxs : ∀ r ∈ xs, r.HasPlainPath) (last : Option Value)
    (ys : List Record) :
    renderFrom format last (xs ++ ys) =
      renderFrom format last xs ++ renderFrom format ((xs.getLast?.map Record.path).or last) ys := by
  induction xs generalizing last with
  | nil => rw [List.nil_append, renderFrom, String.empty_append, List.getLast?_nil, Option.map_none, Option.none_or]
  | cons r xs ih =>
    have hr : r.HasPlainPath := hxs r List.mem_cons_self
    have hrest := ih (fun r' hr' => hxs r' (List.mem_cons_of_mem r hr')) (some r.path)
    have hlast : ((r :: xs).getLast?.map Record.path).or last
        = (xs.getLast?.map Record.path).or (some r.path) := by
      cases hx : xs.getLast? <;> simp [List.getLast?_cons, hx]
    rw [List.cons_append, hlast]
    by_cases h : last = some r.path
    · rw [h, renderFrom_old hformat hr, renderFrom_old hformat hr, hrest, String.append_assoc]
    · rw [renderFrom_new hformat hr h, renderFrom_new hformat hr h, hrest, ← String.append_assoc]

theorem length_heading_pos (path : Value) : 0 < (heading format path).length := by
  cases format with
  | json => exact absurd rfl hformat
  | markdown =>
    simp only [heading, rule, String.length_append, String.length_ofList, List.length_replicate]
    omega
  | plain name =>
    simp only [heading, rule, String.length_append, String.length_ofList, List.length_replicate]
    omega

/-- The texts of two lists of records can be put together just where a new run starts. -/
theorem render_append_eq_iff {xs ys : List Record} (hxs : ∀ r ∈ xs, r.HasPlainPath)
    (hys : ∀ r ∈ ys, r.HasPlainPath) :
    render format (xs ++ ys) = render format xs ++ render format ys ↔
      xs = [] ∨ ys = [] ∨ xs.getLast?.map Record.path ≠ ys.head?.map Record.path := by
  unfold render
  rw [renderFrom_append hformat hxs, Option.or_none, String.append_right_inj]
  cases ys with
  | nil => simp [renderFrom]
  | cons y ys =>
    have hy : y.HasPlainPath := hys y List.mem_cons_self
    rcases List.eq_nil_or_concat xs with rfl | ⟨xs, x, rfl⟩
    · simp
    · simp only [List.concat_eq_append, List.getLast?_concat, List.head?_cons, Option.map_some,
        List.append_eq_nil_iff, List.cons_ne_nil, and_false, false_or]
      rw [renderFrom_new hformat hy (Option.some_ne_none y.path).symm]
      by_cases h : some x.path = some y.path
      · -- the first heading of the second text is missing in the text of both
        rw [h, renderFrom_old hformat hy, String.append_assoc]
        have hpos := length_heading_pos hformat y.path
        refine ⟨fun heq => ?_, fun hne => absurd rfl hne⟩
        have hlength := congrArg String.length heq
        simp only [String.length_append] at hlength
        omega
      · simp [renderFrom_new hformat hy h, h]

end TextFormats

/-- **Headings follow the runs.** Let the paths of records be texts or null. In a text format the writer
writes the runs of a list of records, each with one heading; so the text of two lists behind each other is made
of their texts just if one of them is empty or the last path of the first differs from the first path of the
second. In every format it counts the records. -/
theorem write_follows_runs {format : Format} (hformat : format ≠ .json) {xs ys : List Record}
    (hxs : ∀ r ∈ xs, r.HasPlainPath) (hys : ∀ r ∈ ys, r.HasPlainPath) :
    (∃ runs, AreRunsOf runs xs) ∧
      (∀ runs, AreRunsOf runs xs → (write format xs).text = String.join (runs.map (Run.text format))) ∧
      ((write format (xs ++ ys)).text = (write format xs).text ++ (write format ys).text ↔
        xs = [] ∨ ys = [] ∨ xs.getLast?.map Record.path ≠ ys.head?.map Record.path) ∧
      ∀ format, (write format xs).count = xs.length := by
  refine ⟨exists_runs hxs, ?_, ?_, fun format => count_write format xs⟩
  · rintro runs ⟨rfl, hmaximal⟩
    rw [text_write]
    apply renderFrom_runs hformat hmaximal
    intro run _
    exact (Option.some_ne_none _).symm
  · rw [text_write, text_write, text_write]
    exact render_append_eq_iff hformat hxs hys

/-- Records with a null path in first position, and then the empty one. -/
def sampleRecords : List Record :=
  [.classFields "A" [] .null, .fileImports [] .null, .classFields "B" [] (.text "")]

theorem hasPlainPath_sampleRecords : ∀ r ∈ sampleRecords, r.HasPlainPath := by
  simp only [sampleRecords, List.forall_mem_cons]
  exact ⟨⟨none, rfl⟩, ⟨none, rfl⟩, ⟨some "", rfl⟩, fun r hr => absurd hr List.not_mem_nil⟩

/-- The runs of these records: two with the null path, one with the empty path. -/
def sampleRuns : List Run :=
  [Run.cons (.classFields "A" [] .null) (Run.single (.fileImports [] .null) (show _ = Value.ofText? none from rfl)) rfl,
    Run.single (.classFields "B" [] (.text "")) (show _ = Value.ofText? (some "") from rfl)]

theorem write_follows_runs_sample :
    (Format.markdown ≠ .json ∧ (∀ r ∈ sampleRecords, r.HasPlainPath) ∧ AreRunsOf sampleRuns sampleRecords) ∧
      (write .markdown sampleRecords).text = String.join (sampleRuns.map (Run.text .markdown)) ∧
      (write .markdown (sampleRecords ++ sampleRecords)).text
        = (write .markdown sampleRecords).text ++ (write .markdown sampleRecords).text ∧
      (write .markdown (sampleRecords.take 2 ++ sampleRecords)).text
        ≠ (write .markdown (sampleRecords.take 2)).text ++ (write .markdown sampleRecords).text ∧
      (write .json sampleRecords).count = 3 := by
  have hformat : Format.markdown ≠ .json := by decide
  have hplain := hasPlainPath_sampleRecords
  have htwo : ∀ r ∈ sampleRecords.take 2, r.HasPlainPath := fun r hr => hplain r (List.mem_of_mem_take hr)
  have hruns : AreRunsOf sampleRuns sampleRecords := by
    refine ⟨rfl, ?_⟩
    simp [sampleRuns, Run.cons, Run.single]
  obtain ⟨-, htext, happend, hcount⟩ := write_follows_runs hformat hplain hplain
  refine ⟨⟨hformat, hplain, hruns⟩, htext _ hruns, happend.mpr ?_, ?_, hcount .json⟩
  · simp [sampleRecords, Record.path]
  · intro heq
    have h := (write_follows_runs hformat htwo hplain).2.2.1.mp heq
    simp [sampleRecords, Record.path] at h

end DartSurvey.Report
