import DartSurvey.Proofs.Disk.Direct
import DartSurvey.Proofs.Settings.Loading
import DartSurvey.Proofs.Settings.Options

/-!
# Settings and flags merged

- `OptionsInOrder`, `FormatInOrder` and `PathsInOrder` say what the three parts of a mapping have to be like; settings
  are read from it exactly if all are in order (`ofEntries_ok_iff`). Of the paths that asks only that no number
  among them is too long to be written.
- A policy has those options on that the last entry for them, or a flag, switches on, unless two of them exclude
  each other (`policy_outcomes`).
- A file holds a mapping (`SettingsFile.Holds`) if its text has the data, and a blank text or data that count as false
  stand for the empty one. What is loaded from the file is what is read from the mapping
  (`load_ok_iff_of_holds`).
- `load_merges` puts this together: which files settings are loaded from, what policies these give, and that the
  order of options that are apart does not matter.
- To follow such a file from its bytes, it is enough to know that its mappings merge nothing: flattening leaves them as
  they are, and they are filled one by one (`Yaml.Building.fillAll_flat`).
-/

namespace DartSurvey

open Yaml (Datum)
open Text (Wide)
open Report (Format)

/-! ## Texts as they are shown -/

/-- The code of a character by number; a number that is none stands for the null character. -/
theorem toNat_charOfNat (n : Nat) : (Char.ofNat n).toNat = 0 ∨ (Char.ofNat n).toNat = n := by
  by_cases hvalid : n.isValidChar
  · right
    rw [Char.ofNat, dif_pos hvalid]
    rfl
  · left
    rw [Char.ofNat, dif_neg hvalid]
    rfl

/-- What is shown as ASCII characters is a text of these characters: a pair of halves is none of them. -/
theorem Text.Wide.eq_ofChars_of_joinedChars {w : Wide} {cs : List Char} (h : w.joinedChars = cs)
    (hcs : ∀ c ∈ cs, 0 < c.toNat ∧ c.toNat < 0x80) : w = ofChars cs := by
  fun_induction joinedChars w generalizing cs with
  | case1 =>
    subst h
    rfl
  | case2 c w ih =>
    subst h
    have hw := ih rfl fun d hd => hcs d (List.mem_cons_of_mem c hd)
    exact congrArg (Glyph.char c :: ·) hw
  | case3 high low w c hpair ih =>
    subst h
    have hc := hcs c List.mem_cons_self
    unfold pair? at hpair
    split at hpair
    · rw [← Option.some.inj hpair] at hc
      have hcode := toNat_charOfNat (0x10000 + (high - 0xd800) * 0x400 + (low - 0xdc00))
      omega
    · cases hpair
  | case4 high low w hpair ih =>
    subst h
    exact absurd (hcs _ List.mem_cons_self).2 (by decide)
  | case5 code w hsingle ih =>
    subst h
    exact absurd (hcs _ List.mem_cons_self).2 (by decide)

namespace Settings

/-! ## Mappings in order -/

/-- That the options of a mapping have these entries; without options, or with null for them, there are none. -/
inductive HasOptions (entries : List (Datum × Datum)) : List (Datum × Datum) → Prop
  | missing (h : Datum.lookup "options" entries = none) : HasOptions entries []
  | null (h : Datum.lookup "options" entries = some .null) : HasOptions entries []
  | mapping {options : List (Datum × Datum)} (h : Datum.lookup "options" entries = some (.map options)) :
      HasOptions entries options

/-- That the options of a mapping are such that each key names an option and each value says on or off. -/
def OptionsInOrder (entries : List (Datum × Datum)) : Prop :=
  ∃ options, HasOptions entries options ∧ ∀ o ∈ options, (∃ s, Names o.1 s) ∧ ∃ b, Says o.2 b

/-- That the format of a mapping is missing or no scalar, or that its text is empty or names a format. -/
def FormatInOrder (entries : List (Datum × Datum)) : Prop :=
  ∀ d, Datum.lookup "format" entries = some d → d.isScalar = true →
    ∃ w, d.written? = some w ∧ (w = [] ∨ ∃ name ∈ formatNames, w = Wide.ofString name)

/-- That no path listed in a mapping is a number too long to be written. -/
def PathsInOrder (entries : List (Datum × Datum)) : Prop :=
  ∀ items, Datum.lookup "exclude_paths" entries = some (.list items) → ∀ i ∈ items, ¬i.IsLong

theorem optionEntries_eq_ok_iff {entries options : List (Datum × Datum)} :
    optionEntries entries = .ok options ↔ HasOptions entries options := by
  unfold optionEntries
  constructor
  · intro h
    split at h
    · cases h
      exact .missing ‹_›
    · cases h
      exact .null ‹_›
    · cases h
      exact .mapping ‹_›
    · cases h
  · rintro (h | h | h) <;> rw [h]

theorem HasOptions.unique {entries options options' : List (Datum × Datum)} (h : HasOptions entries options)
    (h' : HasOptions entries options') : options = options' := by
  rw [← optionEntries_eq_ok_iff] at h h'
  exact Except.ok.inj (h.symm.trans h')

theorem readOptions_in_order_iff {options : List (Datum × Datum)} :
    (∃ read, readOptions (fun _ => none) options = .ok read) ↔
      ∀ o ∈ options, (∃ s, Names o.1 s) ∧ ∃ b, Says o.2 b := by
  simp only [readOptions_ok_iff, isOption_iff]

/-- A text that is shown as the name of a format, or as nothing, is that name or empty. -/
theorem joined_mem_formatNames_iff {w : Wide} :
    w.joined = "" ∨ w.joined ∈ formatNames ↔ w = [] ∨ ∃ name ∈ formatNames, w = Wide.ofString name := by
  have hascii : ∀ name ∈ "" :: formatNames, (name.toList.all fun c => 0 < c.toNat && c.toNat < 0x80) = true := by
    decide
  have hshown : ∀ name ∈ "" :: formatNames, w.joined = name → w = Wide.ofString name := by
    intro name hname hw
    refine Wide.eq_ofChars_of_joinedChars ?_ (by simpa using hascii name hname)
    rw [← hw, Wide.joined, String.toList_ofList]
  constructor
  · rintro (h | h)
    · exact .inl (hshown "" List.mem_cons_self h)
    · exact .inr ⟨_, h, hshown _ (List.mem_cons_of_mem _ h) rfl⟩
  · rintro (rfl | ⟨name, hname, rfl⟩)
    · exact .inl rfl
    · rw [Wide.joined_ofString]
      exact .inr hname

theorem readFormat_ok_iff {entries : List (Datum × Datum)} :
    (∃ format, readFormat entries = .ok format) ↔ FormatInOrder entries := by
  unfold readFormat FormatInOrder
  cases hfound : Datum.lookup "format" entries with
  | none => simp [pure, Except.pure]
  | some d =>
    cases hscalar : d.isScalar with
    | false => simp [Option.filter, hscalar, pure, Except.pure]
    | true =>
      simp only [Option.filter, hscalar, ↓reduceIte, Option.some.injEq, forall_eq', forall_const, bind_ok_iff,
        textOf_eq_ok_iff, ← joined_mem_formatNames_iff]
      rw [exists_comm]
      refine exists_congr fun w => ?_
      rw [exists_and_left]
      refine and_congr_right fun _ => ?_
      by_cases hempty : w.joined = ""
      · simp [hempty, pure, Except.pure]
      · by_cases hname : w.joined ∈ formatNames
        · simp [hempty, hname, pure, Except.pure]
        · simp [hempty, hname, throw, throwThe, MonadExceptOf.throw]

theorem textOf_ok_iff {d : Datum} : (∃ w, textOf d = .ok w) ↔ ¬d.IsLong := by
  constructor
  · rintro ⟨w, hw⟩
    exact not_isLong_of_textOf hw
  · intro hshort
    cases htext : textOf d with
    | ok w => exact ⟨w, rfl⟩
    | error p => exact absurd ((textOf_error_iff d p).mp htext).1 hshort

theorem readPaths_ok_iff {d : Datum} :
    (∃ paths, readPaths d = .ok paths) ↔ ∀ items, d = .list items → ∀ i ∈ items, ¬i.IsLong := by
  cases d with
  | list items =>
    simp only [readPaths, mapM_ok_iff, textOf_ok_iff, List.mem_filter, Datum.list.injEq, forall_eq']
    constructor
    · intro h i hi
      cases hscalar : i.isScalar with
      | true => exact h i ⟨hi, hscalar⟩
      | false => exact not_isLong_of_not_isScalar hscalar
    · intro h i hi
      exact h i hi.1
  | null | bool _ | int _ | real _ | text _ | bytes _ | time _ | map _ | set _ | deeper => simp [readPaths]

theorem pathsInOrder_iff {entries : List (Datum × Datum)} :
    (∃ paths, readPaths ((Datum.lookup "exclude_paths" entries).getD .null) = .ok paths) ↔ PathsInOrder entries := by
  rw [readPaths_ok_iff, PathsInOrder]
  cases Datum.lookup "exclude_paths" entries with
  | none => simp
  | some d => simp

/-- Settings are read part by part. -/
theorem ofEntries_eq_ok_iff {entries : List (Datum × Datum)} {s : Settings} :
    ofEntries entries = .ok s ↔ ∃ options, HasOptions entries options ∧
      readOptions (fun _ => none) options = .ok s.options ∧ readFormat entries = .ok s.format ∧
      readPaths ((Datum.lookup "exclude_paths" entries).getD .null) = .ok s.excludePaths := by
  simp only [ofEntries, bind_ok_iff, optionEntries_eq_ok_iff, pure, Except.pure, Except.ok.injEq]
  constructor
  · rintro ⟨options, hoptions, read, hread, format, hformat, paths, hpaths, rfl⟩
    exact ⟨options, hoptions, hread, hformat, hpaths⟩
  · rintro ⟨options, hoptions, hread, hformat, hpaths⟩
    exact ⟨options, hoptions, s.options, hread, s.format, hformat, s.excludePaths, hpaths, rfl⟩

/-- **Mappings in order.** Settings are read from a mapping exactly if its options, its format and its paths are in
order. -/
theorem ofEntries_ok_iff {entries : List (Datum × Datum)} :
    (∃ s, ofEntries entries = .ok s) ↔ OptionsInOrder entries ∧ FormatInOrder entries ∧ PathsInOrder entries := by
  rw [OptionsInOrder, ← readFormat_ok_iff, ← pathsInOrder_iff]
  simp only [← readOptions_in_order_iff, ofEntries_eq_ok_iff]
  constructor
  · rintro ⟨s, options, hoptions, hread, hformat, hpaths⟩
    exact ⟨⟨options, hoptions, s.options, hread⟩, ⟨s.format, hformat⟩, s.excludePaths, hpaths⟩
  · rintro ⟨⟨options, hoptions, read, hread⟩, ⟨format, hformat⟩, paths, hpaths⟩
    exact ⟨⟨read, format, paths⟩, options, hoptions, hread, hformat, hpaths⟩

/-- Two mappings that differ only in the order of their options, of which no two name the same. -/
structure Rearranged (entries entries' : List (Datum × Datum)) : Prop where
  options : ∃ options options', HasOptions entries options ∧ HasOptions entries' options' ∧ Apart options ∧
    options.Perm options'
  format : Datum.lookup "format" entries = Datum.lookup "format" entries'
  paths : Datum.lookup "exclude_paths" entries = Datum.lookup "exclude_paths" entries'

/-- The same settings are read from a rearranged mapping. -/
theorem ofEntries_rearranged {entries entries' : List (Datum × Datum)} (h : Rearranged entries entries')
    {s : Settings} (hs : ofEntries entries = .ok s) : ofEntries entries' = .ok s := by
  obtain ⟨⟨options, options', hoptions, hoptions', hapart, hperm⟩, hformat, hpaths⟩ := h
  rw [ofEntries_eq_ok_iff] at hs ⊢
  obtain ⟨read, hread, hreadOptions, hreadFormat, hreadPaths⟩ := hs
  cases hread.unique hoptions
  refine ⟨options', hoptions', readOptions_perm hapart hperm hreadOptions, ?_, ?_⟩
  · unfold readFormat at hreadFormat ⊢
    rw [← hformat]
    exact hreadFormat
  · rw [← hpaths]
    exact hreadPaths

/-! ## Policies -/

/-- That every flag names an option. -/
def KnownFlags (flags : List (String × Bool)) : Prop := ∀ f ∈ flags, ∃ s ∈ optionSwitches, s.key = f.1

/-- That an option is on by the last entry for it, or by a flag. -/
def Merged (options : List (Datum × Datum)) (flags : List (String × Bool)) (s : Switch) : Prop :=
  LastSays options s true ∨ (s.key, true) ∈ flags

theorem unknownFlag?_eq_none {flags : List (String × Bool)} (h : KnownFlags flags) : unknownFlag? flags = none := by
  rw [unknownFlag?, Option.map_eq_none_iff, List.find?_eq_none]
  intro f hf
  obtain ⟨s, hs, hkey⟩ := h f hf
  simp [option?_eq_some_iff.mpr ⟨hs, hkey⟩]

/-- An option is on in the settings that are read, or by a flag, exactly if it is on in what is merged. -/
theorem isOn_iff_merged {s : Settings} {options : List (Datum × Datum)} {flags : List (String × Bool)}
    (hread : readOptions (fun _ => none) options = .ok s.options) (switch : Switch) :
    s.isOn flags switch = true ↔ Merged options flags switch := by
  have hset : (s.options switch).getD false = true ↔ LastSays options switch true := by
    have hlast := readOptions_eq_some_iff hread switch true
    simp only [reduceCtorEq, and_false, or_false] at hlast
    rw [← hlast]
    cases s.options switch <;> simp
  rw [isOn, Bool.or_eq_true, hset, Merged]
  simp only [List.any_eq_true, Bool.and_eq_true, beq_iff_eq]
  refine or_congr Iff.rfl ⟨?_, fun hmem => ⟨_, hmem, rfl, rfl⟩⟩
  rintro ⟨⟨key, on⟩, hmem, rfl, rfl⟩
  exact hmem

/-- The switches of a run with these flags, and with this format if one is asked for. -/
def switches (s : Settings) (format : Option Format) (flags : List (String × Bool)) (switch : Switch) : Bool :=
  if switch = .markdown then format.getD s.format == .markdown else s.isOn flags switch

/-- With flags that are known, a policy is made of the switches of the run. -/
theorem policy_eq {s : Settings} {flags : List (String × Bool)} (hflags : KnownFlags flags) (format : Option Format) :
    s.policy format flags = (Policy.ofSwitches (s.switches format flags)).mapError Problem.conflict := by
  have hswitches : s.switches format flags
      = fun switch => if switch = .markdown then format.getD s.format == .markdown else s.isOn flags switch := rfl
  rw [policy, unknownFlag?_eq_none hflags, hswitches]
  dsimp only
  split
  · rename_i policy hpolicy
    rw [hpolicy]
    rfl
  · rename_i c hconflict
    rw [hconflict]
    rfl

theorem switches_iff_merged {s : Settings} {options : List (Datum × Datum)} {flags : List (String × Bool)}
    (hread : readOptions (fun _ => none) options = .ok s.options) (format : Option Format) {switch : Switch}
    (hswitch : switch ∈ optionSwitches) : s.switches format flags switch = true ↔ Merged options flags switch := by
  have hne : switch ≠ .markdown := by
    rintro rfl
    exact absurd hswitch (by decide)
  rw [switches, if_neg hne, isOn_iff_merged hread]

/-- **Policies.** With flags that are known, a policy is refused exactly if what is merged has the two options on that
exclude each other. Otherwise the policy has those options on that are on in what is merged. -/
theorem policy_outcomes {s : Settings} {options : List (Datum × Datum)} {flags : List (String × Bool)}
    (hread : readOptions (fun _ => none) options = .ok s.options) (hflags : KnownFlags flags)
    (format : Option Format) :
    (s.policy format flags = .error (.conflict .finalOnlyAndNoFinal) ↔
        Merged options flags .finalOnly ∧ Merged options flags .noFinal) ∧
      (¬(Merged options flags .finalOnly ∧ Merged options flags .noFinal) →
        ∃ policy, s.policy format flags = .ok policy ∧
          ∀ switch ∈ optionSwitches, policy.on switch = true ↔ Merged options flags switch) := by
  have hon : ∀ switch ∈ optionSwitches, s.switches format flags switch = true ↔ Merged options flags switch :=
    fun switch hswitch => switches_iff_merged hread format hswitch
  have hboth : (s.switches format flags .finalOnly && s.switches format flags .noFinal) = true ↔
      Merged options flags .finalOnly ∧ Merged options flags .noFinal := by
    rw [Bool.and_eq_true, hon _ (by decide), hon _ (by decide)]
  rw [policy_eq hflags, ← hboth]
  by_cases hconflict : (s.switches format flags .finalOnly && s.switches format flags .noFinal) = false
  · rw [Policy.ofSwitches, dif_pos hconflict, hconflict]
    refine ⟨iff_of_false ?_ Bool.false_ne_true, fun _ => ⟨⟨s.switches format flags, hconflict⟩, rfl, hon⟩⟩
    simp [Except.mapError]
  · rw [Policy.ofSwitches, dif_neg hconflict]
    have hyes := (Bool.not_eq_false _).mp hconflict
    exact ⟨iff_of_true rfl hyes, fun hnot => absurd hyes hnot⟩

end Settings

namespace SettingsFile

open Disk (Path)

/-! ## Files that hold a mapping -/

/-- That a text holds a mapping with these entries. A text that is blank, or whose data count as false, holds the empty
one. -/
inductive TextHolds (text : String) : List (Datum × Datum) → Prop
  | blank (hblank : (Text.trim text.toList).isEmpty = true) : TextHolds text []
  | empty {datum : Datum} (hblank : (Text.trim text.toList).isEmpty = false)
      (hload : Yaml.load Settings.depth text = .ok datum) (hfalse : datum.truthy = false) : TextHolds text []
  | mapping {entries : List (Datum × Datum)} (hblank : (Text.trim text.toList).isEmpty = false)
      (hload : Yaml.load Settings.depth text = .ok (.map entries)) : TextHolds text entries

/-- That the file a path stands for is there and holds a mapping with these entries. -/
def Holds (d : Disk) (p : Path) (entries : List (Datum × Datum)) : Prop :=
  ∃ place bytes text, locate d p = .ok place ∧ d.read place.path = .ok bytes ∧ Disk.decodeText bytes = .ok text ∧
    TextHolds text entries

theorem ofDatum_map (entries : List (Datum × Datum)) :
    Settings.ofDatum (.map entries) = Settings.ofEntries entries := by
  cases entries with
  | nil => rfl
  | cons e entries => rfl

/-- What reading a text makes of settings, or of a problem with them. -/
def ofResult : Except Settings.Problem Settings → Except LoadError Settings
  | .ok s => .ok s
  | .error .unwritable => .error .unwritable
  | .error p => .error (.problem p)

theorem ofResult_eq_ok_iff {result : Except Settings.Problem Settings} {s : Settings} :
    ofResult result = .ok s ↔ result = .ok s := by
  cases result with
  | ok s' => simp [ofResult]
  | error p => cases p <;> simp [ofResult]

theorem readSettings_ok_iff {text : String} {entries : List (Datum × Datum)} (h : TextHolds text entries)
    (name : String) (s : Settings) : readSettings name text = .ok s ↔ Settings.ofEntries entries = .ok s := by
  have hread : ∀ datum, Settings.ofDatum datum = Settings.ofEntries entries →
      (ofResult (Settings.ofDatum datum) = .ok s ↔ Settings.ofEntries entries = .ok s) := by
    intro datum hdatum
    rw [hdatum, ofResult_eq_ok_iff]
  cases h with
  | blank hblank =>
    simp only [readSettings, hblank, ↓reduceIte]
    exact hread .null rfl
  | @empty datum hblank hload hfalse =>
    simp only [readSettings, hblank, hload, Bool.false_eq_true, ↓reduceIte]
    exact hread datum (by simp [Settings.ofDatum, hfalse])
  | mapping hblank hload =>
    simp only [readSettings, hblank, hload, Bool.false_eq_true, ↓reduceIte]
    exact hread _ (ofDatum_map entries)

/-- What is loaded from a file is what is read from the mapping in it. -/
theorem load_ok_iff_of_holds {d : Disk} {p : Path} {entries : List (Datum × Datum)} (h : Holds d p entries)
    (s : Settings) : (∃ place, load d p = .ok (s, place)) ↔ Settings.ofEntries entries = .ok s := by
  obtain ⟨place, bytes, text, hlocate, hread, htext, hholds⟩ := h
  rw [load_of_text hlocate hread htext, ← readSettings_ok_iff hholds place.name]
  cases readSettings place.name text with
  | error e => simp [Except.map]
  | ok s' => simp [Except.map]

end SettingsFile

/-! ## Mappings that merge nothing -/

namespace Yaml

deriving instance DecidableEq for Content
deriving instance DecidableEq for Node
deriving instance DecidableEq for Document

/-- That a node is a mapping with these entries, of which none is to be merged or stands for a value. -/
structure Nodes.IsFlat (nodes : Nodes) (id : Nat) (entries : List (Nat × Nat)) : Prop where
  tag : nodes.tagOf id = .map
  content : nodes.contentOf id = .mapping entries
  keys : ∀ e ∈ entries, nodes.tagOf e.1 ≠ .value ∧ nodes.tagOf e.1 ≠ .merge

namespace Nodes.IsFlat

variable {nodes : Nodes} {id : Nat} {entries : List (Nat × Nat)}

theorem entriesOf_eq (h : nodes.IsFlat id entries) : nodes.entriesOf id = entries := by
  rw [entriesOf, h.content]

theorem plainKeys_eq (h : nodes.IsFlat id entries) :
    entries.foldl (fun nodes e => nodes.plainKey e.1) nodes = nodes := by
  refine List.foldlRecOn entries _ (motive := fun nodes' => nodes' = nodes) rfl ?_
  rintro _ rfl e he
  rw [plainKey, if_neg (h.keys e he).1]

theorem takeMerge_eq (h : nodes.IsFlat id entries) : nodes.takeMerge id = none := by
  have hnone : entries.find? nodes.isMerge = none := by
    rw [List.find?_eq_none]
    intro e he
    simp [isMerge, (h.keys e he).2]
  rw [takeMerge, h.entriesOf_eq, hnone]

theorem setEntries_eq (h : nodes.IsFlat id entries) : nodes.setEntries id entries = nodes := by
  apply Array.ext_getElem?
  intro i
  rw [setEntries, Array.getElem?_modify]
  split
  · rename_i hi
    subst hi
    have hcontent := h.content
    unfold contentOf at hcontent
    cases hnode : nodes[id]? with
    | none => rfl
    | some n =>
      rw [hnode, Option.getD_some] at hcontent
      rw [Option.map_some, ← hcontent]
  · rfl

/-- Flattening leaves a flat mapping as it is. -/
theorem flatten_eq (h : nodes.IsFlat id entries) : nodes.flatten id = .ok nodes := by
  rw [flatten, flattenWith, h.entriesOf_eq, h.plainKeys_eq, gather, h.takeMerge_eq]
  simp only [h.entriesOf_eq, List.nil_append, h.setEntries_eq]

end Nodes.IsFlat

/-- A flat mapping whose turn it is to be filled is filled with what its entries stand for. -/
theorem Building.fillAll_flat {b b' : Building} {id : Nat} {rest : List Nat} {entries : List (Nat × Nat)}
    {made : List (Ref × Ref)} (fuel : Nat) (hwaiting : b.waiting = id :: rest) (hflat : b.nodes.IsFlat id entries)
    (hmade : meetEntries [] { b with waiting := rest } entries = .ok (made, b')) :
    b.fillAll (fuel + 1) = fillAll fuel { b' with filled := b'.filled.setIfInBounds id (some (.map made)) } := by
  have hcontents : contents { b with waiting := rest } id = .ok (.map made, b') := by
    rw [contents, hflat.tag, hflat.content, hflat.flatten_eq]
    simp only [bind, Except.bind, hflat.entriesOf_eq, hmade]
    rfl
  rw [fillAll, hwaiting]
  simp only [hcontents]
  rfl

end Yaml

namespace SettingsFile

open Disk (Path)

/-! ## An option in both spellings -/

/-- Settings in which one option is switched on in one spelling and then off in the other. -/
def twiceSpelled : String := "options:\n  no-final: ' Yes '\n  no_final: off\n"

/-- The options of these settings. -/
def twiceSpelledOptions : List (Datum × Datum) :=
  [(.text (.ofString "no-final"), .text (.ofString " Yes ")), (.text (.ofString "no_final"), .bool false)]

/-- The entries of these settings. -/
def twiceSpelledEntries : List (Datum × Datum) := [(.text (.ofString "options"), .map twiceSpelledOptions)]

/-- The nodes of these settings. -/
def twiceSpelledNodes : Yaml.Nodes :=
  #[⟨.map, .mapping [(1, 2)]⟩, ⟨.str, .scalar (.ofString "options")⟩, ⟨.map, .mapping [(3, 4), (5, 6)]⟩,
    ⟨.str, .scalar (.ofString "no-final")⟩, ⟨.str, .scalar (.ofString " Yes ")⟩,
    ⟨.str, .scalar (.ofString "no_final")⟩, ⟨.bool, .scalar (.ofString "off")⟩]

theorem yaml_load_twiceSpelled : Yaml.load Settings.depth twiceSpelled = .ok (.map twiceSpelledEntries) := by
  have hdocument : Yaml.Document.ofTokens? (Yaml.tokens twiceSpelled.toList) = .ok (some ⟨twiceSpelledNodes, 0⟩) := by
    decide +kernel
  have hroot : twiceSpelledNodes.IsFlat 0 [(1, 2)] := ⟨rfl, rfl, by decide⟩
  have hoptions : twiceSpelledNodes.IsFlat 2 [(3, 4), (5, 6)] := ⟨rfl, rfl, by decide⟩
  rw [Yaml.load, hdocument]
  show (Yaml.Building.fillAll 8 _ >>= fun b => pure (b.unfold Settings.depth (.collection 0))) = _
  -- the outermost mapping is filled first, and comes upon the options
  rw [Yaml.Building.fillAll_flat 7 rfl hroot rfl, Yaml.Building.fillAll_flat 6 rfl hoptions rfl]
  rfl

/-- A disk with these settings. -/
def twiceSpelledDisk : Disk where
  base := "/work"
  root := [(Settings.fileName, .file twiceSpelled.toUTF8.data.toList)]

theorem twiceSpelledDisk_holds : Holds twiceSpelledDisk (Path.ofString ".") twiceSpelledEntries := by
  have hpath : Path.ofString "." = ⟨"", []⟩ := by decide
  have hfolder : twiceSpelledDisk.reach ⟨"", []⟩ = .ok (.folder twiceSpelledDisk.root) :=
    Disk.find_folder [] rfl rfl (by decide)
  have hfile : twiceSpelledDisk.reach ⟨"", [Settings.fileName]⟩ = .ok (.file twiceSpelled.toUTF8.data.toList) :=
    Disk.find_file [] Settings.fileName rfl rfl (by decide) rfl (by decide)
  have hlocate : locate twiceSpelledDisk (Path.ofString ".") = .ok ⟨[], Settings.fileName⟩ := by
    rw [hpath]
    refine locate_folder rfl hfolder (by decide) ?_ ?_
    · exact Disk.canonical_last rfl rfl (by decide) fun target h => by cases h
    · rw [List.nil_append, hfile]
      simp
  have hread : twiceSpelledDisk.read ⟨"", [Settings.fileName]⟩ = .ok twiceSpelled.toUTF8.data.toList := by
    rw [Disk.read, hfile]
  have htext : Disk.decodeText twiceSpelled.toUTF8.data.toList = .ok twiceSpelled := by decide +kernel
  exact ⟨_, _, _, hlocate, hread, htext, .mapping (by decide +kernel) yaml_load_twiceSpelled⟩

end SettingsFile

end DartSurvey
