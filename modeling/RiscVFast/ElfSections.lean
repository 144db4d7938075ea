import Mathlib.Data.List.Fold
import RiscVFast.ElfFile

/-! What the loader makes of the sections: their kinds, the areas they span and the copies. -/

namespace RiscVFast

open Fallible

def SectionRule.matches (rule : SectionRule) (name : List Byte) (flags : Word) : Bool :=
  rule.literal.isPrefixOf name && flags &&& rule.flags != 0

def kindOf (name : List Byte) (flags : Word) : Option SectionKind :=
  (sectionRules.find? fun rule => rule.matches name flags).map fun rule => rule.kind

theorem orOutOfBuffer_some {α : Type} (value : α) : orOutOfBuffer (some value) = .ok value := rfl

theorem orOutOfBuffer_none {α : Type} : orOutOfBuffer (none : Option α) = .error .outOfBuffer := rfl

theorem sameChars_whole {name literal : List Byte} (whole : ¬ CString.CutShort name literal) :
    sameChars name literal = .ok (literal.isPrefixOf name) := by
  rw [sameChars, CString.compare_of_whole whole, orOutOfBuffer_some]

theorem sameChars_cutShort {name literal : List Byte} (short : CString.CutShort name literal) :
    sameChars name literal = .error .outOfBuffer := by
  rw [sameChars, CString.compare_eq_none.mpr short, orOutOfBuffer_none]

def unknownSection (name : List Byte) : Except Abort SectionKind := classify name 0 []

theorem classify_rules {name : List Byte} (flags : Word) (rules : List SectionRule)
    (whole : ∀ rule ∈ rules, ¬ CString.CutShort name rule.literal) :
    classify name flags rules =
      match rules.find? fun rule => rule.matches name flags with
      | some rule => .ok rule.kind
      | none => unknownSection name := by
  induction rules with
  | nil => rfl
  | cons rule rules ih =>
      simp only [classify, sameChars_whole (whole rule List.mem_cons_self), ok_bind,
        List.find?_cons]
      have chosen_iff : rule.matches name flags = true ↔
          rule.literal.isPrefixOf name = true ∧ flags &&& rule.flags ≠ 0 := by
        rw [SectionRule.matches, Bool.and_eq_true, bne_iff_ne]
      cases chosen : rule.matches name flags with
      | true => rw [if_pos (chosen_iff.mp chosen)]
      | false =>
          rw [chosen] at chosen_iff
          rw [if_neg (mt chosen_iff.mpr Bool.false_ne_true),
            ih fun later member => whole later (List.mem_cons_of_mem _ member)]

theorem classify_whole {name : List Byte} (flags : Word)
    (whole : ∀ rule ∈ sectionRules, ¬ CString.CutShort name rule.literal) :
    classify name flags sectionRules =
      match kindOf name flags with
      | some kind => .ok kind
      | none => unknownSection name := by
  rw [classify_rules flags sectionRules whole, kindOf]
  cases sectionRules.find? fun rule => rule.matches name flags <;> rfl

/-- No name that a branch looks for begins another one. -/
theorem sectionRules_apart : ∀ rule ∈ sectionRules, ∀ other ∈ sectionRules,
    rule.literal <+: other.literal → rule.literal = other.literal := by
  decide +kernel

theorem classify_cutShort {name : List Byte} (flags : Word) {rules : List SectionRule}
    (known : ∀ rule ∈ rules, rule ∈ sectionRules)
    (short : ∃ rule ∈ rules, CString.CutShort name rule.literal) :
    classify name flags rules = .error .outOfBuffer := by
  induction rules with
  | nil => simp at short
  | cons rule rules ih =>
      simp only [classify]
      by_cases here : CString.CutShort name rule.literal
      · rw [sameChars_cutShort here, error_bind]
      · obtain ⟨other, member, cut⟩ := short
        have differs : rule.literal.isPrefixOf name = false := by
          rw [← Bool.not_eq_true, List.isPrefixOf_iff_prefix]
          intro starts
          have same := sectionRules_apart rule (known rule List.mem_cons_self) other
            (known other member) (starts.trans cut.1)
          rw [same] at starts
          exact cut.2 (cut.1.eq_of_length_le starts.length_le)
        have later : other ∈ rules := by
          rcases List.mem_cons.mp member with same | later
          · rw [same] at cut
            exact absurd cut here
          · exact later
        rw [sameChars_whole here, differs, ok_bind]
        simp only [Bool.false_eq_true, false_and, if_false]
        exact ih (fun rule member => known rule (List.mem_cons_of_mem _ member)) ⟨other, later, cut⟩

/-- The repeated branch for `.eh_frame` is never the first that holds. -/
theorem kindOf_ne_again (name : List Byte) (flags : Word) : kindOf name flags ≠ some .textAgain := by
  have repeats : ∀ rule ∈ sectionRules.take 5, rule.kind ≠ .textAgain := by decide
  have others : ∀ rule ∈ sectionRules.drop 6, rule.kind ≠ .textAgain := by decide
  have parts : sectionRules = sectionRules.take 5 ++
      ⟨chars ".eh_frame" ++ [0], shfAlloc ||| shfWrite, .textAgain⟩ :: sectionRules.drop 6 := rfl
  intro found
  obtain ⟨rule, searched, kind⟩ := Option.map_eq_some_iff.mp found
  rw [parts, List.find?_append, List.find?_cons] at searched
  cases first : (sectionRules.take 5).find? fun rule => rule.matches name flags with
  | some early =>
      rw [first, Option.some_or] at searched
      rw [← Option.some.inj searched] at kind
      exact repeats early (List.mem_of_find?_eq_some first) kind
  | none =>
      have refused := List.find?_eq_none.mp first
        ⟨chars ".eh_frame" ++ [0], shfAlloc ||| shfWrite, .text⟩ (by simp [sectionRules])
      rw [first, Option.none_or] at searched
      split at searched
      · rename_i again
        exact refused again
      · exact others rule (List.mem_of_find?_eq_some searched) kind

section Areas

variable (elfbuf : List Byte)

def fileName (sect : ElfSection) : Option (List Byte) :=
  (fileNameTable elfbuf).map fun table => elfbuf.drop (table.toNat + sect.name.toNat)

def fileKind (sect : ElfSection) : Option SectionKind :=
  (fileName elfbuf sect).bind fun name => kindOf name sect.flags

def sectionsOf (kind : SectionKind) : List ElfSection :=
  (fileSections elfbuf).filter fun sect => !skipped sect.flags && fileKind elfbuf sect == some kind

/-- From the lowest address to the highest end, both in 32 bits. -/
def areaOf (sections : List ElfSection) : Area where
  base := BitVec.ofNat 32 ((sections.map fun sect => sect.addr.toNat).foldr min (2 ^ 32 - 1))
  limit := BitVec.ofNat 32 ((sections.map fun sect => (sect.addr + sect.size).toNat).foldr max 0)

def fileAreas : Areas where
  text := areaOf (sectionsOf elfbuf .text)
  data := areaOf (sectionsOf elfbuf .data)
  bss := areaOf (sectionsOf elfbuf .bss)

end Areas

theorem add_base (area : Area) (addr len : Word) :
    (area.add addr len).base.toNat = min area.base.toNat addr.toNat := by
  simp only [Area.add, BitVec.ult, decide_eq_true_eq]
  split <;> omega

theorem add_limit (area : Area) (addr len : Word) :
    (area.add addr len).limit.toNat = max area.limit.toNat (addr + len).toNat := by
  simp only [Area.add, BitVec.ult, decide_eq_true_eq]
  split <;> omega

theorem foldl_base (sections : List ElfSection) (area : Area) :
    (sections.foldl (fun area sect => area.add sect.addr sect.size) area).base.toNat =
      (sections.map fun sect => sect.addr.toNat).foldl min area.base.toNat := by
  induction sections generalizing area with
  | nil => rfl
  | cons sect sections ih =>
      rw [List.foldl_cons, ih, add_base]
      rfl

theorem foldl_limit (sections : List ElfSection) (area : Area) :
    (sections.foldl (fun area sect => area.add sect.addr sect.size) area).limit.toNat =
      (sections.map fun sect => (sect.addr + sect.size).toNat).foldl max area.limit.toNat := by
  induction sections generalizing area with
  | nil => rfl
  | cons sect sections ih =>
      rw [List.foldl_cons, ih, add_limit]
      rfl

theorem foldl_area (sections : List ElfSection) :
    sections.foldl (fun area sect => area.add sect.addr sect.size) Area.none = areaOf sections := by
  have base := foldl_base sections Area.none
  have limit := foldl_limit sections Area.none
  rw [List.foldl_eq_foldr] at base limit
  have ofBase := BitVec.ofNat_toNat 32
    (sections.foldl (fun area sect => area.add sect.addr sect.size) Area.none).base
  have ofLimit := BitVec.ofNat_toNat 32
    (sections.foldl (fun area sect => area.add sect.addr sect.size) Area.none).limit
  rw [base, BitVec.setWidth_eq] at ofBase
  rw [limit, BitVec.setWidth_eq] at ofLimit
  rw [areaOf]
  exact (congrArg₂ Area.mk ofBase ofLimit).symm

def areaRound (host : LoaderHost) (elfbuf : List Byte) (nameTable : Option Word)
    (sect : ElfSection) : Except Abort (Option (SectionKind × ElfSection)) :=
  if skipped sect.flags then .ok none
  else do
    let name ← sectionName elfbuf nameTable sect
    let _ ← printName host name
    let kind ← classify name sect.flags sectionRules
    .ok (some (kind, sect))

def Areas.grow (areas : Areas) : Option (SectionKind × ElfSection) → Areas
  | .none => areas
  | .some (kind, sect) => areas.add kind sect.addr sect.size

theorem determineArea_round (host : LoaderHost) (elfbuf : List Byte) (nameTable : Option Word)
    (areas : Areas) (sect : ElfSection) :
    determineArea host elfbuf nameTable areas sect =
      (areaRound host elfbuf nameTable sect).map areas.grow := by
  unfold determineArea areaRound
  split
  · rfl
  · cases sectionName elfbuf nameTable sect with
    | error abort => rfl
    | ok name =>
        simp only [ok_bind]
        cases printName host name with
        | error abort => rfl
        | ok text =>
            simp only [ok_bind]
            cases classify name sect.flags sectionRules <;> rfl

def Recognised (elfbuf : List Byte) (sect : ElfSection) : Prop :=
  skipped sect.flags = true ∨ (fileKind elfbuf sect).isSome = true

instance (elfbuf : List Byte) (sect : ElfSection) : Decidable (Recognised elfbuf sect) :=
  inferInstanceAs (Decidable (_ ∨ _))

/-- Everything that is read of a name to print it and to tell its kind lies inside the file. -/
def NameInside (host : LoaderHost) (elfbuf : List Byte) (sect : ElfSection) : Prop :=
  ∃ name, fileName elfbuf sect = some name ∧
    (host.quiet = true ∨ 0 ∈ name ∨ 12 ≤ name.length) ∧
    (∀ rule ∈ sectionRules, ¬ CString.CutShort name rule.literal) ∧
    (kindOf name sect.flags = none → 0 ∈ name)

/-- The names up to the first section that the loader does not know. -/
def NamesInside (host : LoaderHost) (elfbuf : List Byte) : List ElfSection → Prop
  | [] => True
  | sect :: sections => (skipped sect.flags = true ∨ NameInside host elfbuf sect) ∧
      (Recognised elfbuf sect → NamesInside host elfbuf sections)

def unknownAbort : Abort := .exit 1 "Unknow program section: %s\n" 0

def roundOf (elfbuf : List Byte) (sect : ElfSection) : Option (SectionKind × ElfSection) :=
  if skipped sect.flags then none else (fileKind elfbuf sect).map fun kind => (kind, sect)

theorem sectionName_eq (elfbuf : List Byte) (sect : ElfSection) :
    sectionName elfbuf (fileNameTable elfbuf) sect = orOutOfBuffer (fileName elfbuf sect) := by
  unfold sectionName fileName
  cases fileNameTable elfbuf <;> rfl

theorem unknownSection_eq (name : List Byte) :
    unknownSection name = .error (if 0 ∈ name then unknownAbort else .outOfBuffer) := by
  unfold unknownSection classify
  by_cases ends : 0 ∈ name
  · rw [CString.read_of_mem 0 ends, orOutOfBuffer_some, ok_bind, if_pos ends]
    rfl
  · rw [(CString.read_eq_none 0).mpr ends, orOutOfBuffer_none, error_bind, if_neg ends]

theorem printName_inside {host : LoaderHost} {name : List Byte}
    (printed : host.quiet = true ∨ 0 ∈ name ∨ 12 ≤ name.length) :
    ∃ text, printName host name = .ok text := by
  unfold printName
  split
  · exact ⟨[], rfl⟩
  · rename_i loud
    cases read : CString.readAtMost 0 12 name with
    | some text => exact ⟨text, rfl⟩
    | none =>
        obtain ⟨endless, short⟩ := (CString.readAtMost_eq_none 0).mp read
        rcases printed.resolve_left loud with ends | long
        · exact absurd ends endless
        · omega

theorem printName_outside {host : LoaderHost} {name : List Byte}
    (unprinted : ¬ (host.quiet = true ∨ 0 ∈ name ∨ 12 ≤ name.length)) :
    printName host name = .error .outOfBuffer := by
  obtain ⟨loud, rest⟩ := not_or.mp unprinted
  obtain ⟨endless, short⟩ := not_or.mp rest
  rw [printName, if_neg loud, (CString.readAtMost_eq_none 0).mpr ⟨endless, by omega⟩,
    orOutOfBuffer_none]

theorem areaRound_inside {host : LoaderHost} {elfbuf : List Byte} {sect : ElfSection}
    (named : skipped sect.flags = true ∨ NameInside host elfbuf sect) :
    areaRound host elfbuf (fileNameTable elfbuf) sect =
      if Recognised elfbuf sect then .ok (roundOf elfbuf sect) else .error unknownAbort := by
  by_cases skip : skipped sect.flags = true
  · simp only [areaRound, roundOf, Recognised, skip, if_true, true_or]
  · obtain ⟨name, isName, printed, whole, ends⟩ := named.resolve_left skip
    obtain ⟨text, printing⟩ := printName_inside printed
    simp only [areaRound, roundOf, Recognised, skip, sectionName_eq, isName, orOutOfBuffer_some, ok_bind,
      printing, classify_whole sect.flags whole, fileKind, Option.bind_some]
    cases kind : kindOf name sect.flags with
    | some kind => simp
    | none =>
        simp only [unknownSection_eq, if_pos (ends kind)]
        simp

theorem areaRound_outside {host : LoaderHost} {elfbuf : List Byte} {sect : ElfSection}
    (unnamed : ¬ (skipped sect.flags = true ∨ NameInside host elfbuf sect)) :
    areaRound host elfbuf (fileNameTable elfbuf) sect = .error .outOfBuffer := by
  obtain ⟨notSkipped, outside⟩ := not_or.mp unnamed
  rw [areaRound, if_neg notSkipped, sectionName_eq]
  cases isName : fileName elfbuf sect with
  | none => rfl
  | some name =>
      rw [orOutOfBuffer_some, ok_bind]
      by_cases printed : host.quiet = true ∨ 0 ∈ name ∨ 12 ≤ name.length
      · obtain ⟨text, printing⟩ := printName_inside printed
        rw [printing, ok_bind]
        by_cases whole : ∀ rule ∈ sectionRules, ¬ CString.CutShort name rule.literal
        · have unknown : kindOf name sect.flags = none ∧ 0 ∉ name := by
            by_contra known
            refine outside ⟨name, isName, printed, whole, fun kind => ?_⟩
            by_contra endless
            exact known ⟨kind, endless⟩
          rw [classify_whole sect.flags whole, unknown.1]
          simp only [unknownSection_eq, if_neg unknown.2]
          rfl
        · simp only [not_forall, exists_prop, not_not] at whole
          rw [classify_cutShort sect.flags (fun rule member => member) whole, error_bind]
      · rw [printName_outside printed, error_bind]

theorem areaRounds_recognised {host : LoaderHost} {elfbuf : List Byte}
    {sections : List ElfSection} (inside : NamesInside host elfbuf sections)
    (all : ∀ sect ∈ sections, Recognised elfbuf sect) :
    sections.mapM (areaRound host elfbuf (fileNameTable elfbuf)) =
      .ok (sections.map (roundOf elfbuf)) := by
  refine mapM_of_all _ fun sect member => ?_
  induction sections with
  | nil => simp at member
  | cons first sections ih =>
      obtain ⟨named, later⟩ := inside
      have known := all first List.mem_cons_self
      rcases List.mem_cons.mp member with same | member
      · rw [same, areaRound_inside named]
        rw [if_pos known]
      · exact ih (later known) (fun sect member => all sect (List.mem_cons_of_mem _ member)) member

theorem areaRounds_unknown {host : LoaderHost} {elfbuf : List Byte}
    {sections : List ElfSection} (inside : NamesInside host elfbuf sections)
    (some : ∃ sect ∈ sections, ¬ Recognised elfbuf sect) :
    sections.mapM (areaRound host elfbuf (fileNameTable elfbuf)) = .error unknownAbort := by
  induction sections with
  | nil => simp at some
  | cons first sections ih =>
      obtain ⟨named, later⟩ := inside
      rw [List.mapM_cons, areaRound_inside named]
      by_cases known : Recognised elfbuf first
      · obtain ⟨sect, member, unknown⟩ := some
        have rest : sect ∈ sections := by
          rcases List.mem_cons.mp member with same | rest
          · rw [same] at unknown
            exact absurd known unknown
          · exact rest
        rw [if_pos known, ok_bind, ih (later known) ⟨sect, rest, unknown⟩]
        rfl
      · rw [if_neg known]
        rfl

theorem areaRounds_outside {host : LoaderHost} {elfbuf : List Byte}
    {sections : List ElfSection} (outside : ¬ NamesInside host elfbuf sections) :
    sections.mapM (areaRound host elfbuf (fileNameTable elfbuf)) = .error .outOfBuffer := by
  induction sections with
  | nil => exact absurd trivial outside
  | cons first sections ih =>
      rw [List.mapM_cons]
      by_cases named : skipped first.flags = true ∨ NameInside host elfbuf first
      · obtain ⟨known, later⟩ := Classical.not_imp.mp (not_and.mp outside named)
        rw [areaRound_inside named, if_pos known, ok_bind, ih later]
        rfl
      · rw [areaRound_outside named]
        rfl

theorem foldl_grow (elfbuf : List Byte) (sections : List ElfSection) (areas : Areas) :
    (sections.map (roundOf elfbuf)).foldl Areas.grow areas =
      let ofKind := fun kind : SectionKind => sections.filter fun sect =>
        !skipped sect.flags && fileKind elfbuf sect == some kind
      let grown := fun (area : Area) (sections : List ElfSection) =>
        sections.foldl (fun area sect => area.add sect.addr sect.size) area
      ⟨grown areas.text (ofKind .text), grown areas.data (ofKind .data),
        grown areas.bss (ofKind .bss)⟩ := by
  induction sections generalizing areas with
  | nil => rfl
  | cons sect sections ih =>
      simp only [List.map_cons, List.foldl_cons, ih]
      by_cases skip : skipped sect.flags = true
      · simp [roundOf, skip, Areas.grow]
      · rw [Bool.not_eq_true] at skip
        cases kind : fileKind elfbuf sect with
        | none => simp [roundOf, skip, kind, Areas.grow]
        | some kind' =>
            have notAgain : kind' ≠ .textAgain := by
              intro again
              obtain ⟨name, _, known⟩ := Option.bind_eq_some_iff.mp kind
              rw [again] at known
              exact kindOf_ne_again name sect.flags known
            cases kind' with
            | textAgain => exact absurd rfl notAgain
            | text => simp [roundOf, skip, kind, Areas.grow, Areas.add]
            | data => simp [roundOf, skip, kind, Areas.grow, Areas.add]
            | bss => simp [roundOf, skip, kind, Areas.grow, Areas.add]

theorem areas_eq (elfbuf : List Byte) :
    ((fileSections elfbuf).map (roundOf elfbuf)).foldl Areas.grow Areas.none = fileAreas elfbuf := by
  rw [foldl_grow]
  simp only [Areas.none, foldl_area]
  rfl

end RiscVFast
