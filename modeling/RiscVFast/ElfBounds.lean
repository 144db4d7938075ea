import RiscVFast.ElfCopies

/-! Which files the loader reads and copies without leaving a buffer. -/

namespace RiscVFast

open Fallible

def fileBuffer (file : List Byte) : List Byte := file.take (file.length % 2 ^ 32)

/-! What has to lie inside the file, and inside the new buffers. -/

section Conditions

variable (host : LoaderHost) (heapLen : Word) (elfbuf : List Byte)

def HasMagic : Prop := chars "ELF" <+: elfbuf.drop 1

def Accepted : Prop :=
  HasMagic elfbuf ∧ byteData elfbuf 4 = 1 ∧ supportedMachine (fileMachine elfbuf) = true

structure IdentInside : Prop where
  magic : ¬ CString.CutShort (elfbuf.drop 1) (chars "ELF")
  ident : HasMagic elfbuf → 6 ≤ elfbuf.length
  machine : HasMagic elfbuf → byteData elfbuf 4 = 1 → 20 ≤ elfbuf.length

structure TablesInside : Prop where
  header : 50 ≤ elfbuf.length
  programs : ∀ i < (fileHeader elfbuf).phnum.toNat,
    EntryInside elfbuf (fileHeader elfbuf).phoff (fileHeader elfbuf).phentsize i
  sections : SectionsInside elfbuf
  names : NamesInside host elfbuf (fileSections elfbuf)

/-- For files of known sections only: for others the loader exits before it copies. -/
def CopiesInside : Prop :=
  ∀ sect ∈ fileSections elfbuf, skipped sect.flags = true ∨
    CopyInside elfbuf (fileAreas elfbuf) (newMemory host heapLen (fileAreas elfbuf)) sect

structure StaysInside : Prop where
  ident : IdentInside elfbuf
  tables : Accepted elfbuf → TablesInside host elfbuf
  copies : Accepted elfbuf → (∀ sect ∈ fileSections elfbuf, Recognised elfbuf sect) →
    CopiesInside host heapLen elfbuf

end Conditions

section Tables

variable {host : LoaderHost} {heapLen : Word} {elfbuf : List Byte}

def Loaded.fresh (before : Loaded) (host : LoaderHost) (heapLen : Word) (elfbuf : List Byte) :
    Loaded :=
  { before with
    memory := newMemory host heapLen (fileAreas elfbuf), entry := (fileHeader elfbuf).entry }

theorem determineAreas_eq (nameTable : Option Word) (sections : List ElfSection) :
    sections.foldlM (determineArea host elfbuf nameTable) Areas.none =
      (sections.mapM (areaRound host elfbuf nameTable)).map fun rounds =>
        rounds.foldl Areas.grow Areas.none :=
  foldlM_of_checks (fun _ => True)
    (fun areas sect _ => determineArea_round host elfbuf nameTable areas sect)
    (fun _ _ _ _ _ => trivial) sections trivial

theorem loadElf_tables (header : 50 ≤ elfbuf.length)
    (programs : ∀ i < (fileHeader elfbuf).phnum.toNat,
      EntryInside elfbuf (fileHeader elfbuf).phoff (fileHeader elfbuf).phentsize i)
    (sections : SectionsInside elfbuf) (before : Loaded) :
    loadElf host heapLen elfbuf before = (do
      let rounds ← (fileSections elfbuf).mapM (areaRound host elfbuf (fileNameTable elfbuf))
      let areas := rounds.foldl Areas.grow Areas.none
      (fileSections elfbuf).foldlM (loadSection elfbuf (fileNameTable elfbuf) areas)
        { before with
          memory := newMemory host heapLen areas, entry := (fileHeader elfbuf).entry }) := by
  obtain ⟨done, ran⟩ := programs_inside programs
  unfold loadElf
  rw [elfHeader_inside header]
  simp only [ok_bind, ran, nameTable_inside sections, overSections_inside sections,
    determineAreas_eq]
  cases (fileSections elfbuf).mapM (areaRound host elfbuf (fileNameTable elfbuf)) <;> rfl

theorem loadElf_known (inside : TablesInside host elfbuf)
    (known : ∀ sect ∈ fileSections elfbuf, Recognised elfbuf sect) (before : Loaded) :
    loadElf host heapLen elfbuf before =
      (fileSections elfbuf).foldlM
        (loadSection elfbuf (fileNameTable elfbuf) (fileAreas elfbuf))
        (before.fresh host heapLen elfbuf) := by
  rw [loadElf_tables inside.header inside.programs inside.sections,
    areaRounds_recognised inside.names known, ok_bind, areas_eq]
  rfl

theorem loadElf_copies (inside : TablesInside host elfbuf)
    (known : ∀ sect ∈ fileSections elfbuf, Recognised elfbuf sect)
    (copies : CopiesInside host heapLen elfbuf) (before : Loaded) :
    loadElf host heapLen elfbuf before =
      .ok (((fileSections elfbuf).map (copyOf elfbuf (fileAreas elfbuf)
        (newMemory host heapLen (fileAreas elfbuf)))).foldl Loaded.copy
          (before.fresh host heapLen elfbuf)) := by
  rw [loadElf_known inside known]
  exact loadSections_inside copies

theorem loadElf_overruns (inside : TablesInside host elfbuf)
    (known : ∀ sect ∈ fileSections elfbuf, Recognised elfbuf sect)
    (overruns : ¬ CopiesInside host heapLen elfbuf) (before : Loaded) :
    loadElf host heapLen elfbuf before = .error .outOfBuffer := by
  rw [loadElf_known inside known]
  exact loadSections_outside overruns

theorem loadElf_unknown (inside : TablesInside host elfbuf)
    (unknown : ¬ ∀ sect ∈ fileSections elfbuf, Recognised elfbuf sect) (before : Loaded) :
    loadElf host heapLen elfbuf before = .error unknownAbort := by
  have some : ∃ sect ∈ fileSections elfbuf, ¬ Recognised elfbuf sect := by
    simpa only [not_forall, exists_prop] using unknown
  rw [loadElf_tables inside.header inside.programs inside.sections,
    areaRounds_unknown inside.names some, error_bind]

theorem loadElf_outside (outside : ¬ TablesInside host elfbuf) (before : Loaded) :
    loadElf host heapLen elfbuf before = .error .outOfBuffer := by
  by_cases header : 50 ≤ elfbuf.length
  · by_cases programs : ∀ i < (fileHeader elfbuf).phnum.toNat,
        EntryInside elfbuf (fileHeader elfbuf).phoff (fileHeader elfbuf).phentsize i
    · by_cases sections : SectionsInside elfbuf
      · have names : ¬ NamesInside host elfbuf (fileSections elfbuf) :=
          fun names => outside ⟨header, programs, sections, names⟩
        rw [loadElf_tables header programs sections, areaRounds_outside names, error_bind]
      · obtain ⟨done, ran⟩ := programs_inside programs
        rw [loadElf, elfHeader_inside header, ok_bind, ran, ok_bind, nameTable_outside sections,
          error_bind]
    · rw [loadElf, elfHeader_inside header, ok_bind, programs_outside programs, error_bind]
  · rw [loadElf, elfHeader_outside (by omega), error_bind]

end Tables

section Loader

variable {host : LoaderHost} {heapLen : Word} {file : List Byte}

theorem readElf_noBuffer (refused : host.malloc .file (fileBuffer file).length = none)
    (before : Loaded) : readElf host heapLen file before = .ok (-1, before) := by
  unfold readElf
  rw [fileBuffer] at refused
  simp only [refused]

theorem readElf_granted (granted : host.malloc .file (fileBuffer file).length ≠ none)
    (before : Loaded) :
    readElf host heapLen file before = (do
      let isElf ← sameChars ((fileBuffer file).drop 1) (chars "ELF")
      if !isElf then .ok (-1, before)
      else do
        let _ ← fileByte (fileBuffer file) 5
        let elfClass ← fileByte (fileBuffer file) 4
        if elfClass ≠ 1 then .error (.exit (-1) "Must be ELFCLASS32 - 32 bit Elf\n" 0)
        else do
          let machine ← fileHalf (fileBuffer file) 18
          if !supportedMachine machine then .ok (-1, before)
          else (loadElf host heapLen (fileBuffer file) before).map fun loaded => (0, loaded)) := by
  obtain ⟨contents, given⟩ := Option.ne_none_iff_exists'.mp granted
  unfold readElf
  rw [fileBuffer] at given ⊢
  simp only [given]

theorem readElf_accepted (granted : host.malloc .file (fileBuffer file).length ≠ none)
    (inside : IdentInside (fileBuffer file)) (accepted : Accepted (fileBuffer file))
    (before : Loaded) :
    readElf host heapLen file before =
      (loadElf host heapLen (fileBuffer file) before).map fun loaded => (0, loaded) := by
  obtain ⟨magic, elfClass, machine⟩ := accepted
  have ident := inside.ident magic
  rw [readElf_granted granted, sameChars_whole inside.magic,
    List.isPrefixOf_iff_prefix.mpr magic, ok_bind, fileByte_inside (by omega),
    fileByte_inside (by omega), fileHalf_inside (by have := inside.machine magic elfClass; omega)]
  rw [fileMachine] at machine
  simp only [ok_bind, elfClass, machine, Bool.not_true, Bool.false_eq_true, if_false, ne_eq,
    not_true_eq_false]

theorem readElf_declined (granted : host.malloc .file (fileBuffer file).length ≠ none)
    (inside : IdentInside (fileBuffer file)) (declined : ¬ Accepted (fileBuffer file))
    (before : Loaded) :
    readElf host heapLen file before = .ok (-1, before) ∨
      readElf host heapLen file before =
        .error (.exit (-1) "Must be ELFCLASS32 - 32 bit Elf\n" 0) := by
  rw [readElf_granted granted, sameChars_whole inside.magic, ok_bind]
  by_cases magic : HasMagic (fileBuffer file)
  · have ident := inside.ident magic
    rw [List.isPrefixOf_iff_prefix.mpr magic, fileByte_inside (by omega),
      fileByte_inside (by omega)]
    by_cases elfClass : byteData (fileBuffer file) 4 = 1
    · have machine : supportedMachine (fileMachine (fileBuffer file)) = false := by
        rw [← Bool.not_eq_true]
        exact fun machine => declined ⟨magic, elfClass, machine⟩
      rw [fileHalf_inside (by have := inside.machine magic elfClass; omega)]
      rw [fileMachine] at machine
      refine .inl ?_
      simp only [ok_bind, elfClass, machine, Bool.not_true, Bool.not_false, Bool.false_eq_true,
        if_false, if_true, ne_eq, not_true_eq_false]
    · refine .inr ?_
      simp only [ok_bind, Bool.not_true, Bool.false_eq_true, if_false]
      exact if_pos elfClass
  · rw [HasMagic, ← List.isPrefixOf_iff_prefix, Bool.not_eq_true] at magic
    rw [magic]
    exact .inl rfl

theorem readElf_identOutside (granted : host.malloc .file (fileBuffer file).length ≠ none)
    (outside : ¬ IdentInside (fileBuffer file)) (before : Loaded) :
    readElf host heapLen file before = .error .outOfBuffer := by
  rw [readElf_granted granted]
  by_cases whole : CString.CutShort ((fileBuffer file).drop 1) (chars "ELF")
  · rw [sameChars_cutShort whole, error_bind]
  · rw [sameChars_whole whole, ok_bind]
    by_cases magic : HasMagic (fileBuffer file)
    · rw [List.isPrefixOf_iff_prefix.mpr magic]
      by_cases ident : 6 ≤ (fileBuffer file).length
      · rw [fileByte_inside (by omega), fileByte_inside (by omega)]
        have short : byteData (fileBuffer file) 4 = 1 ∧ (fileBuffer file).length < 20 := by
          by_contra long
          refine outside ⟨whole, fun _ => ident, fun _ elfClass => ?_⟩
          by_contra tooShort
          exact long ⟨elfClass, by omega⟩
        rw [fileHalf_outside (by omega)]
        simp [short.1]
      · rw [fileByte_outside (by omega)]
        rfl
    · exact absurd ⟨whole, fun isMagic => absurd isMagic magic,
        fun isMagic => absurd isMagic magic⟩ outside

def Reports : Except Abort (Int × Loaded) → Prop
  | .ok (status, _) => status = 0 ∨ status = -1
  | .error (.exit _ _ _) => True
  | .error _ => False

instance (outcome : Except Abort (Int × Loaded)) : Decidable (Reports outcome) :=
  match outcome with
  | .ok (status, _) => inferInstanceAs (Decidable (status = 0 ∨ status = -1))
  | .error (.exit _ _ _) => .isTrue trivial
  | .error (.fatal _ _) => .isFalse id
  | .error (.unknownItem _) => .isFalse id
  | .error (.unknownOp _) => .isFalse id
  | .error .outOfBuffer => .isFalse id
  | .error .divideError => .isFalse id

theorem readElf_reports_iff (host : LoaderHost) (heapLen : Word) (file : List Byte)
    (before : Loaded) :
    Reports (readElf host heapLen file before) ↔
      host.malloc .file (fileBuffer file).length = none ∨
        StaysInside host heapLen (fileBuffer file) := by
  by_cases refused : host.malloc .file (fileBuffer file).length = none
  · rw [readElf_noBuffer refused]
    exact iff_of_true (.inr rfl) (.inl refused)
  · rw [or_iff_right refused]
    by_cases ident : IdentInside (fileBuffer file)
    · by_cases accepted : Accepted (fileBuffer file)
      · rw [readElf_accepted refused ident accepted]
        by_cases tables : TablesInside host (fileBuffer file)
        · by_cases known : ∀ sect ∈ fileSections (fileBuffer file),
              Recognised (fileBuffer file) sect
          · by_cases copies : CopiesInside host heapLen (fileBuffer file)
            · rw [loadElf_copies tables known copies, map_ok]
              exact iff_of_true (.inl rfl) ⟨ident, fun _ => tables, fun _ _ => copies⟩
            · rw [loadElf_overruns tables known copies, map_error]
              exact iff_of_false id fun stays => copies (stays.copies accepted known)
          · rw [loadElf_unknown tables known, map_error]
            exact iff_of_true trivial
              ⟨ident, fun _ => tables, fun _ all => absurd all known⟩
        · rw [loadElf_outside tables, map_error]
          exact iff_of_false id fun stays => tables (stays.tables accepted)
      · have stays : StaysInside host heapLen (fileBuffer file) :=
          ⟨ident, fun is => absurd is accepted, fun is => absurd is accepted⟩
        rcases @readElf_declined host heapLen file refused ident accepted before with
          outcome | outcome
        · rw [outcome]
          exact iff_of_true (.inr rfl) stays
        · rw [outcome]
          exact iff_of_true trivial stays
    · rw [readElf_identOutside refused ident]
      exact iff_of_false id fun stays => ident stays.ident

/-- An ELF header alone, with one section at 0x1000. -/
def headerOnly : List Byte :=
  [0x7f, 0x45, 0x4c, 0x46, 1, 1, 1, 0, 0, 0, 0, 0, 0, 0, 0, 0, 2, 0, 243, 0, 1, 0, 0, 0,
    0, 0x10, 0, 0, 0, 0, 0, 0, 0, 0x10, 0, 0, 0, 0, 0, 0, 52, 0, 32, 0, 0, 0, 40, 0, 1, 0, 0, 0]

theorem readElf_overreads : ¬ ∀ (host : LoaderHost) (heapLen : Word) (file : List Byte)
    (before : Loaded), Reports (readElf host heapLen file before) := by
  intro reports
  have outcome := reports ⟨true, fun _ _ => some fun _ => 0⟩ 0x10000 headerOnly
    ⟨smallMemory 0 [], [], [], 0⟩
  revert outcome
  decide +kernel

end Loader

end RiscVFast
