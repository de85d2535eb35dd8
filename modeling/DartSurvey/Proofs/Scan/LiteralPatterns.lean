import DartSurvey.Proofs.Scan.Composition

/-!
# Patterns without wildcards

What a walk leaves out for one pattern without wildcards can be read off the paths of the files, without the
folders that it does not enter (`PatternParts.Drops`).

- A path starts with a text and a slash just if some folder on the way to it has that text as its path
  (`relative_begin_iff`), and a text is a component of a path just if it is one of the names
  (`mem_pieces_relative`). So the folders and the file that a pattern matches are told by the path
  (`spares_literal`).
- `literal_pattern_drops`: of the files that a walk yields without the pattern, it drops just those.
-/

namespace DartSurvey.Scan

open Disk (Path)

/-! ## Folders on the way -/

theorem mem_tail_inits {above folder : List String} :
    above ∈ folder.inits.tail ↔ above ≠ [] ∧ above <+: folder := by
  cases folder with
  | nil => simp
  | cons name rest =>
    rw [List.inits_cons, List.tail_cons, List.mem_map]
    constructor
    · rintro ⟨more, hmore, rfl⟩
      exact ⟨List.cons_ne_nil _ _, List.cons_prefix_cons.mpr ⟨rfl, (List.mem_inits _ _).mp hmore⟩⟩
    · rintro ⟨hne, hbegin⟩
      cases above with
      | nil => exact absurd rfl hne
      | cons name' more =>
        obtain ⟨rfl, hmore⟩ := List.cons_prefix_cons.mp hbegin
        exact ⟨more, (List.mem_inits _ _).mpr hmore, rfl⟩

/-- A walk does not get to a folder if a rule matches a folder on the way, or the folder. -/
theorem reaches_eq_false_iff {rules : List Exclude.Rule} {folder : List String} :
    reaches rules folder = false ↔
      ∃ above, above ≠ [] ∧ above <+: folder ∧ Exclude.excludes rules (Walk.relative above) true = true := by
  simp only [reaches, List.all_eq_false, mem_tail_inits, Bool.not_eq_true, Bool.not_eq_false', and_assoc]

variable {place : List String}

theorem names_relative (h : IsPlace place) : Path.names (Walk.relative place) = place :=
  Path.names_intercalate h.1 fun s hs => (h.2 s hs).2.2.2

/-- A text is a component of a path just if it is one of the names. -/
theorem mem_pieces_relative (h : IsPlace place) (text : List Char) :
    text ∈ Path.pieces (Walk.relative place).toList ↔ String.ofList text ∈ place := by
  have hnames := names_relative h
  rw [Path.names] at hnames
  rw [← List.mem_map_of_injective fun _ _ => String.ofList_injective, hnames]

/-- A path starts with a text and a slash just if a folder on the way has that text as its path. -/
theorem relative_begin_iff (h : IsPlace place) (text : List Char) :
    text ++ ['/'] <+: (Walk.relative place).toList ↔
      ∃ above, above ≠ [] ∧ above <+: place.dropLast ∧ (Walk.relative above).toList = text := by
  constructor
  · rintro ⟨rest, hrest⟩
    have hnames := names_relative h
    rw [Path.names, ← hrest, List.append_assoc, List.singleton_append, Path.pieces_append, List.map_append] at hnames
    have hmore : (Path.pieces rest).map String.ofList ≠ [] := by simpa using Path.pieces_ne_nil rest
    refine ⟨(Path.pieces text).map String.ofList, by simpa using Path.pieces_ne_nil text, ?_, ?_⟩
    · rw [← hnames, List.dropLast_append_of_ne_nil hmore]
      exact List.prefix_append _ _
    · have hjoin := Path.intercalate_names (String.ofList text)
      rw [Path.names, String.toList_ofList] at hjoin
      rw [Walk.relative, hjoin, String.toList_ofList]
  · rintro ⟨above, hne, ⟨rest, hrest⟩, rfl⟩
    have hplace : above ++ (rest ++ [place.getLast h.1]) = place := by
      rw [← List.append_assoc, hrest, List.dropLast_concat_getLast]
    have hslash : ("/" : String).toList = ['/'] := by decide
    rw [← hplace, Walk.relative, Walk.relative, String.intercalate_append_of_ne_nil hne (by simp),
      String.toList_append, String.toList_append, hslash]
    exact List.prefix_append _ _

end DartSurvey.Scan

namespace DartSurvey.Exclude

open Scan (IsPlace)

/-- That a pattern without wildcards drops the file at a place. With an empty text it drops none. Matched with whole
paths, it drops the files below the folder that its text is the path of, and the file of that path if it is not
for folders only; otherwise those below any folder of that name, and the files of that name if it is not for
folders only. -/
def PatternParts.Drops (p : PatternParts) (place : List String) : Prop :=
  p.text ≠ [] ∧
    if p.wholePath then
      p.text ++ ['/'] <+: (Scan.Walk.relative place).toList ∨
        (p.foldersOnly = false ∧ (Scan.Walk.relative place).toList = p.text)
    else
      String.ofList p.text ∈ place.dropLast ∨
        (p.foldersOnly = false ∧ place.getLast? = some (String.ofList p.text))

instance (p : PatternParts) (place : List String) : Decidable (p.Drops place) :=
  inferInstanceAs (Decidable (_ ∧ _))

/-- A folder on the way to a file is at a place. -/
theorem isPlace_above {place above : List String} (hplace : IsPlace place) (hne : above ≠ [])
    (habove : above <+: place.dropLast) : IsPlace above :=
  ⟨hne, fun s hs => hplace.2 s (List.dropLast_subset place (habove.subset hs))⟩

/-- A pattern without wildcards drops a file if it matches a folder on the way to it, or the file. -/
theorem PatternParts.drops_iff (p : PatternParts) {place : List String} (hplace : IsPlace place) :
    p.Drops place ↔
      (∃ above, above ≠ [] ∧ above <+: place.dropLast ∧ p.Matches (Scan.Walk.relative above).toList true) ∨
        p.Matches (Scan.Walk.relative place).toList false := by
  unfold Drops Matches
  by_cases hwhole : p.wholePath = true
  · simp only [if_pos hwhole, Scan.relative_begin_iff hplace]
    constructor
    · rintro ⟨htext, ⟨above, hne, habove, hpath⟩ | ⟨hany, hpath⟩⟩
      · exact Or.inl ⟨above, hne, habove, htext, fun _ => trivial, hpath⟩
      · exact Or.inr ⟨htext, fun hfolder => hany.symm.trans hfolder, hpath⟩
    · rintro (⟨above, hne, habove, htext, -, hpath⟩ | ⟨htext, hany, hpath⟩)
      · exact ⟨htext, Or.inl ⟨above, hne, habove, hpath⟩⟩
      · exact ⟨htext, Or.inr ⟨Bool.eq_false_iff.mpr fun hfolder => Bool.false_ne_true (hany hfolder), hpath⟩⟩
  · simp only [if_neg hwhole]
    constructor
    · rintro ⟨htext, hname | ⟨hany, hlast⟩⟩
      · have hne : place.dropLast ≠ [] := List.ne_nil_of_mem hname
        refine Or.inl ⟨place.dropLast, hne, List.prefix_rfl, htext, fun _ => trivial, ?_⟩
        exact (Scan.mem_pieces_relative (isPlace_above hplace hne List.prefix_rfl) p.text).mpr hname
      · refine Or.inr ⟨htext, fun hfolder => hany.symm.trans hfolder, ?_⟩
        exact (Scan.mem_pieces_relative hplace p.text).mpr (List.mem_of_getLast? hlast)
    · rintro (⟨above, hne, habove, htext, -, hpiece⟩ | ⟨htext, hany, hpiece⟩)
      · rw [Scan.mem_pieces_relative (isPlace_above hplace hne habove)] at hpiece
        exact ⟨htext, Or.inl (habove.subset hpiece)⟩
      · -- a name of the path of the file is that of a folder on the way, or its own
        rw [Scan.mem_pieces_relative hplace, ← List.dropLast_concat_getLast hplace.1, List.mem_append,
          List.mem_singleton] at hpiece
        refine ⟨htext, hpiece.imp id fun hlast => ?_⟩
        refine ⟨Bool.eq_false_iff.mpr fun hfolder => Bool.false_ne_true (hany hfolder), ?_⟩
        rw [hlast, List.getLast?_eq_some_getLast hplace.1]

/-- The rule of a pattern without wildcards spares the files that the pattern does not drop. -/
theorem spares_literal {pattern : String} (h : IsLiteral pattern) {place : List String} (hplace : IsPlace place) :
    Scan.spares (rulesOf [pattern]) place = !decide ((PatternParts.of pattern).Drops place) := by
  have hcut : Scan.spares (rulesOf [pattern]) place = false ↔ (PatternParts.of pattern).Drops place := by
    rw [PatternParts.drops_iff _ hplace]
    simp only [Scan.spares, Bool.and_eq_false_iff, Scan.reaches_eq_false_iff, Bool.not_eq_false', excludes_literal h]
  rw [Bool.eq_iff_iff, Bool.not_eq_true', decide_eq_false_iff_not, ← hcut, Bool.not_eq_false]

end DartSurvey.Exclude

namespace DartSurvey.Scan.Inspector

open Disk (Path)

variable (ins : Inspector) {disk : Disk}

/-- **What a pattern without wildcards drops.** Of the files that a walk yields without patterns, the walk with
one pattern without wildcards drops just those that the parts of the pattern say. It yields the others first and
in the same order, and these only if nothing breaks the walk without patterns off. -/
theorem literal_pattern_drops (hd : disk.root.WellFormed) (root : String) {pattern : String}
    (h : Exclude.IsLiteral pattern) :
    let files := ((ins.excluding []).sourceFiles disk root).files
    let kept := (ins.excluding [pattern]).yielded disk root
    let drops := fun path => (Exclude.PatternParts.of pattern).Drops (below (Path.ofString root) path)
    (ins.excluding []).yielded disk root = files.map Path.text ∧
      files.filter (fun path => path.text ∉ kept) = files.filter (fun path => drops path) ∧
      (files.filter (fun path => ¬drops path)).map Path.text <+: kept ∧
      ((ins.excluding []).walkFailure? disk root = none →
        kept = (files.filter (fun path => ¬drops path)).map Path.text) := by
  intro files kept drops
  let plain := sources (arrivalAt (Path.ofString root) [] disk [])
  have hfiles : files = plain.map (Path.ofString root).append := by
    simp only [files, sourceFiles_eq _ disk hd]
    rfl
  have hkept : kept = (sources (arrivalAt (Path.ofString root) (Exclude.rulesOf [pattern]) disk [])).map
      fun place => ((Path.ofString root).append place).text := yielded_eq _ hd root
  have hplaces : ∀ place ∈ plain, IsPlace place := (apart_arrivalAt (Path.ofString root) [] disk hd).all
  have hspares : ∀ place ∈ plain, spares (Exclude.rulesOf [pattern]) place
      = !decide ((Exclude.PatternParts.of pattern).Drops place) :=
    fun place hp => Exclude.spares_literal h (hplaces place hp)
  have hrest : (files.filter fun path => ¬drops path).map Path.text
      = (plain.filter (spares (Exclude.rulesOf [pattern]))).map
        fun place => ((Path.ofString root).append place).text := by
    rw [hfiles, List.filter_map, List.map_map, List.filter_congr hspares]
    simp only [Function.comp_def, drops, below_append, decide_not]
  refine ⟨?_, ?_, ?_, ?_⟩
  · rw [yielded_eq _ hd, hfiles, List.map_map]
    rfl
  · rw [hfiles, List.filter_map, List.filter_map]
    refine congrArg _ (List.filter_congr fun place hp => ?_)
    have hmem : ((Path.ofString root).append place).text ∈ kept ↔ spares (Exclude.rulesOf [pattern]) place = true :=
      (text_mem_yielded_iff _ hd root (hplaces place hp)).trans (mem_sources_iff_spares hp _)
    simp only [Function.comp_apply, hmem, hspares place hp, drops, below_append, Bool.not_eq_true',
      decide_eq_false_iff_not, not_not]
  · rw [hrest, hkept]
    exact (spared_begin (Path.ofString root) _ disk).map _
  · intro hnone
    rw [walkFailure?_excluding _ hd (isFolder_of_walkFailure? _ hnone)] at hnone
    obtain ⟨hjoint, -⟩ := ins.joint_walk_of_clear hnone (Exclude.rulesOf [pattern])
    rw [← Exclude.rulesOf_append, List.nil_append] at hjoint
    rw [hrest, hkept, hjoint]
    rfl

theorem literal_pattern_drops_sample :
    let kept := ((detourInspector []).excluding [" /lib/ "]).yielded detourDisk (detourText 0 ++ "x")
    (detourDisk.root.WellFormed ∧ Exclude.IsLiteral " /lib/ ") ∧
      (Exclude.PatternParts.of " /lib/ ").Drops ["lib", "f.dart"] ∧
      (((detourInspector []).excluding []).sourceFiles detourDisk (detourText 0 ++ "x")).files.filter
          (fun path => path.text ∉ kept) = [detour 0 ["x", "lib", "f.dart"]] ∧
      kept = [] := by
  intro kept
  have hliteral : Exclude.IsLiteral " /lib/ " := by
    have htrim : Text.trim " /lib/ ".toList = ['/', 'l', 'i', 'b', '/'] := by decide
    rw [Exclude.IsLiteral, htrim]
    simp [Exclude.isWildcard]
  have hdrops : (Exclude.PatternParts.of " /lib/ ").Drops ["lib", "f.dart"] := by decide
  have hfiles : (((detourInspector []).excluding []).sourceFiles detourDisk (detourText 0 ++ "x")).files
      = [detour 0 ["x", "lib", "f.dart"]] := by
    rw [sourceFiles_eq _ _ wellFormed_detourDisk, ofString_detour, arrivalAt_detour _ (by omega)]
    rfl
  have hbelow : below (Path.ofString (detourText 0 ++ "x")) (detour 0 ["x", "lib", "f.dart"]) = ["lib", "f.dart"] := by
    have hpath : detour 0 ["x", "lib", "f.dart"] = (detour 0 ["x"]).append ["lib", "f.dart"] := rfl
    rw [ofString_detour, hpath, below_append]
  obtain ⟨-, hdropped, -, hrest⟩ :=
    literal_pattern_drops (detourInspector []) wellFormed_detourDisk (detourText 0 ++ "x") hliteral
  rw [hfiles] at hdropped hrest ⊢
  refine ⟨⟨wellFormed_detourDisk, hliteral⟩, hdrops, hdropped.trans ?_, ?_⟩
  · simp [hbelow, hdrops]
  · refine (hrest (walkFailure?_detour [] (by omega))).trans ?_
    simp [hbelow, hdrops]

end DartSurvey.Scan.Inspector
