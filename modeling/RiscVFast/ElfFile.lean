import RiscVFast.Elf
import RiscVFast.Lib.Loops

/-! The fields of an ELF file, and the loops of the loader over its tables. -/

namespace RiscVFast

open Fallible

section Fields

variable (elfbuf : List Byte)

def fileHeader : ElfHeader where
  entry := word (byteData elfbuf) 24
  phoff := word (byteData elfbuf) 28
  shoff := word (byteData elfbuf) 32
  phentsize := half (byteData elfbuf) 42
  phnum := half (byteData elfbuf) 44
  shentsize := half (byteData elfbuf) 46
  shnum := half (byteData elfbuf) 48

def fileMachine : BitVec 16 := half (byteData elfbuf) 18

def fileShstrndx : Nat := (half (byteData elfbuf) 50).toNat

def sectionAt (off : Nat) : ElfSection where
  name := word (byteData elfbuf) off
  type := word (byteData elfbuf) (off + 4)
  flags := word (byteData elfbuf) (off + 8)
  addr := word (byteData elfbuf) (off + 12)
  offset := word (byteData elfbuf) (off + 16)
  size := word (byteData elfbuf) (off + 20)

def fileSection (i : Nat) : ElfSection :=
  sectionAt elfbuf ((fileHeader elfbuf).shoff.toNat + (fileHeader elfbuf).shentsize.toNat * i)

def fileSections : List ElfSection :=
  (List.range (fileHeader elfbuf).shnum.toNat).map (fileSection elfbuf)

def fileNameTable : Option Word :=
  if fileShstrndx elfbuf < (fileHeader elfbuf).shnum.toNat ∧
      (fileSection elfbuf (fileShstrndx elfbuf)).type = shtStrtab then
    some (fileSection elfbuf (fileShstrndx elfbuf)).offset
  else none

def EntryInside (base : Word) (entsize : BitVec 16) (i : Nat) : Prop :=
  entsize.toNat * i < 2 ^ 31 ∧ base.toNat + entsize.toNat * i + 24 ≤ elfbuf.length

end Fields

section Reads

variable {elfbuf : List Byte}

theorem fileByte_inside {off : Nat} (inside : off + 1 ≤ elfbuf.length) :
    fileByte elfbuf off = .ok (byteData elfbuf off) := by
  rw [fileByte, fileAccess, if_pos inside, map_ok]

theorem fileHalf_inside {off : Nat} (inside : off + 2 ≤ elfbuf.length) :
    fileHalf elfbuf off = .ok (half (byteData elfbuf) off) := by
  rw [fileHalf, fileAccess, if_pos inside, map_ok]

theorem fileWord_inside {off : Nat} (inside : off + 4 ≤ elfbuf.length) :
    fileWord elfbuf off = .ok (word (byteData elfbuf) off) := by
  rw [fileWord, fileAccess, if_pos inside, map_ok]

theorem fileByte_outside {off : Nat} (outside : elfbuf.length < off + 1) :
    fileByte elfbuf off = .error .outOfBuffer := by
  rw [fileByte, fileAccess, if_neg (by omega), map_error]

theorem fileHalf_outside {off : Nat} (outside : elfbuf.length < off + 2) :
    fileHalf elfbuf off = .error .outOfBuffer := by
  rw [fileHalf, fileAccess, if_neg (by omega), map_error]

theorem fileWord_outside {off : Nat} (outside : elfbuf.length < off + 4) :
    fileWord elfbuf off = .error .outOfBuffer := by
  rw [fileWord, fileAccess, if_neg (by omega), map_error]

theorem bind_outOfBuffer {α β : Type} {x : Except Abort α} {f : α → Except Abort β}
    (first : (∃ a, x = .ok a) ∨ x = .error .outOfBuffer)
    (later : ∀ a, f a = .error .outOfBuffer) : (x >>= f) = .error .outOfBuffer := by
  rcases first with ⟨a, succeeds⟩ | fails
  · rw [succeeds, ok_bind, later a]
  · rw [fails, error_bind]

theorem fileHalf_cases (off : Nat) :
    (∃ value, fileHalf elfbuf off = .ok value) ∨ fileHalf elfbuf off = .error .outOfBuffer := by
  rcases Nat.lt_or_ge elfbuf.length (off + 2) with outside | inside
  · exact .inr (fileHalf_outside outside)
  · exact .inl ⟨_, fileHalf_inside inside⟩

theorem fileWord_cases (off : Nat) :
    (∃ value, fileWord elfbuf off = .ok value) ∨ fileWord elfbuf off = .error .outOfBuffer := by
  rcases Nat.lt_or_ge elfbuf.length (off + 4) with outside | inside
  · exact .inr (fileWord_outside outside)
  · exact .inl ⟨_, fileWord_inside inside⟩

theorem elfHeader_inside (inside : 50 ≤ elfbuf.length) :
    elfHeader elfbuf = .ok (fileHeader elfbuf) := by
  unfold elfHeader
  rw [fileWord_inside (by omega), fileWord_inside (by omega), fileWord_inside (by omega),
    fileHalf_inside (by omega), fileHalf_inside (by omega), fileHalf_inside (by omega),
    fileHalf_inside (by omega)]
  rfl

theorem elfHeader_outside (outside : elfbuf.length < 50) :
    elfHeader elfbuf = .error .outOfBuffer := by
  unfold elfHeader
  refine bind_outOfBuffer (fileWord_cases 24) fun _ => ?_
  refine bind_outOfBuffer (fileWord_cases 28) fun _ => ?_
  refine bind_outOfBuffer (fileWord_cases 32) fun _ => ?_
  refine bind_outOfBuffer (fileHalf_cases 42) fun _ => ?_
  refine bind_outOfBuffer (fileHalf_cases 44) fun _ => ?_
  refine bind_outOfBuffer (fileHalf_cases 46) fun _ => ?_
  rw [fileHalf_outside outside, error_bind]

theorem elfProgram_inside {header : ElfHeader} {i : Nat}
    (inside : EntryInside elfbuf header.phoff header.phentsize i) :
    elfProgram elfbuf header i = .ok () := by
  obtain ⟨defined, fits⟩ := inside
  simp only [elfProgram, tableEntry, if_pos defined, ok_bind]
  rw [fileWord_inside (by omega), fileWord_inside (by omega), fileWord_inside (by omega),
    fileWord_inside (by omega)]
  rfl

theorem elfProgram_outside {header : ElfHeader} {i : Nat}
    (outside : ¬ EntryInside elfbuf header.phoff header.phentsize i) :
    elfProgram elfbuf header i = .error .outOfBuffer := by
  unfold elfProgram tableEntry
  split
  · rename_i defined
    have beyond := not_and.mp outside defined
    rw [ok_bind]
    refine bind_outOfBuffer (fileWord_cases _) fun _ => ?_
    refine bind_outOfBuffer (fileWord_cases _) fun _ => ?_
    refine bind_outOfBuffer (fileWord_cases _) fun _ => ?_
    rw [fileWord_outside (by omega), error_bind]
  · rfl

theorem elfSection_inside {header : ElfHeader} {i : Nat}
    (inside : EntryInside elfbuf header.shoff header.shentsize i) :
    elfSection elfbuf header i =
      .ok (sectionAt elfbuf (header.shoff.toNat + header.shentsize.toNat * i)) := by
  obtain ⟨defined, fits⟩ := inside
  simp only [elfSection, tableEntry, if_pos defined, ok_bind]
  rw [fileWord_inside (by omega), fileWord_inside (by omega), fileWord_inside (by omega),
    fileWord_inside (by omega), fileWord_inside (by omega), fileWord_inside (by omega)]
  rfl

theorem fileSection_inside {i : Nat} (inside :
    EntryInside elfbuf (fileHeader elfbuf).shoff (fileHeader elfbuf).shentsize i) :
    elfSection elfbuf (fileHeader elfbuf) i = .ok (fileSection elfbuf i) :=
  elfSection_inside inside

theorem elfSection_outside {header : ElfHeader} {i : Nat}
    (outside : ¬ EntryInside elfbuf header.shoff header.shentsize i) :
    elfSection elfbuf header i = .error .outOfBuffer := by
  unfold elfSection tableEntry
  split
  · rename_i defined
    have beyond := not_and.mp outside defined
    rw [ok_bind]
    refine bind_outOfBuffer (fileWord_cases _) fun _ => ?_
    refine bind_outOfBuffer (fileWord_cases _) fun _ => ?_
    refine bind_outOfBuffer (fileWord_cases _) fun _ => ?_
    refine bind_outOfBuffer (fileWord_cases _) fun _ => ?_
    refine bind_outOfBuffer (fileWord_cases _) fun _ => ?_
    rw [fileWord_outside (by omega), error_bind]
  · rfl

end Reads

section Tables

variable {elfbuf : List Byte}

theorem programs_inside {header : ElfHeader} (inside : ∀ i < header.phnum.toNat,
    EntryInside elfbuf header.phoff header.phentsize i) :
    ∃ done, (List.range header.phnum.toNat).mapM (elfProgram elfbuf header) = .ok done := by
  refine ⟨_, mapM_of_all (fun _ => ()) fun i member => ?_⟩
  exact elfProgram_inside (inside i (List.mem_range.mp member))

theorem programs_outside {header : ElfHeader} (outside : ¬ ∀ i < header.phnum.toNat,
    EntryInside elfbuf header.phoff header.phentsize i) :
    (List.range header.phnum.toNat).mapM (elfProgram elfbuf header) = .error .outOfBuffer := by
  obtain ⟨i, below, beyond⟩ : ∃ i < header.phnum.toNat,
      ¬ EntryInside elfbuf header.phoff header.phentsize i := by
    simpa only [not_forall, exists_prop] using outside
  refine mapM_of_some (fun other _ => ?_) ⟨i, List.mem_range.mpr below, elfProgram_outside beyond⟩
  by_cases inside : EntryInside elfbuf header.phoff header.phentsize other
  · exact .inl ⟨(), elfProgram_inside inside⟩
  · exact .inr (elfProgram_outside inside)

/-- The section headers lie inside the file, and so does `e_shstrndx` when a string table makes
the loader look at it. -/
structure SectionsInside (elfbuf : List Byte) : Prop where
  entries : ∀ i < (fileHeader elfbuf).shnum.toNat,
    EntryInside elfbuf (fileHeader elfbuf).shoff (fileHeader elfbuf).shentsize i
  index : (∃ sect ∈ fileSections elfbuf, sect.type = shtStrtab) → 52 ≤ elfbuf.length

def nameTableRound (elfbuf : List Byte) (header : ElfHeader) (i : Nat) :
    Except Abort (Option Word) := do
  let sect ← elfSection elfbuf header i
  if sect.type = shtStrtab then do
    let shstrndx ← fileHalf elfbuf 50
    .ok (if i = shstrndx.toNat then some sect.offset else none)
  else .ok none

theorem findNameTable_round {header : ElfHeader} (nameTable : Option Word) (i : Nat)
    (read : nameTable ≠ none → 52 ≤ elfbuf.length) :
    findNameTable elfbuf header nameTable i =
      (nameTableRound elfbuf header i).map fun found => nameTable.or found := by
  unfold findNameTable nameTableRound
  cases elfSection elfbuf header i with
  | error abort => rfl
  | ok sect =>
      simp only [ok_bind]
      by_cases strtab : sect.type = shtStrtab
      · cases nameTable with
        | none =>
            simp only [strtab, and_self, if_true]
            cases fileHalf elfbuf 50 <;> rfl
        | some table =>
            have inside := read (by simp)
            simp only [strtab, if_true, reduceCtorEq, false_and, if_false]
            rw [fileHalf_inside inside]
            rfl
      · simp only [strtab, and_false, if_false, map_ok, Option.or_none]

theorem nameTable_loop (header : ElfHeader) (items : List Nat) :
    items.foldlM (findNameTable elfbuf header) none =
      (items.mapM (nameTableRound elfbuf header)).map fun results =>
        results.foldl (fun nameTable found => nameTable.or found) none := by
  refine foldlM_of_checks (fun nameTable => nameTable ≠ none → 52 ≤ elfbuf.length)
    (fun nameTable i read => findNameTable_round nameTable i read) ?_ items (by simp)
  intro nameTable i found read checked isFound
  cases nameTable with
  | some table => exact read (by simp)
  | none =>
      obtain ⟨sect, _, checked⟩ := bind_eq_ok.mp checked
      split at checked
      · obtain ⟨shstrndx, fetched, _⟩ := bind_eq_ok.mp checked
        rcases Nat.lt_or_ge elfbuf.length 52 with outside | inside
        · rw [@fileHalf_outside elfbuf 50 outside] at fetched
          cases fetched
        · exact inside
      · cases checked
        simp at isFound

theorem foldl_found (chosen : Nat) (isTable : Nat → Prop) [DecidablePred isTable]
    (offset : Nat → Word) (count : Nat) :
    ((List.range count).map fun i => if isTable i ∧ i = chosen then some (offset i) else none).foldl
        (fun nameTable found => nameTable.or found) none =
      if chosen < count ∧ isTable chosen then some (offset chosen) else none := by
  induction count with
  | zero => simp
  | succ count ih =>
      rw [List.range_succ, List.map_append, List.foldl_append, ih]
      by_cases table : isTable chosen
      · rcases Nat.lt_trichotomy chosen count with below | same | above
        · simp [table, below, show chosen < count + 1 by omega]
        · subst same
          simp [table]
        · simp [table, show ¬ chosen < count by omega, show ¬ chosen < count + 1 by omega,
            show count ≠ chosen by omega]
      · have never : ¬ (isTable count ∧ count = chosen) := by
          rintro ⟨isCount, rfl⟩
          exact table isCount
        simp [table, never]

theorem nameTable_inside (inside : SectionsInside elfbuf) :
    (List.range (fileHeader elfbuf).shnum.toNat).foldlM
        (findNameTable elfbuf (fileHeader elfbuf)) none = .ok (fileNameTable elfbuf) := by
  have rounds : ∀ i ∈ List.range (fileHeader elfbuf).shnum.toNat,
      nameTableRound elfbuf (fileHeader elfbuf) i =
        .ok (if (fileSection elfbuf i).type = shtStrtab ∧ i = fileShstrndx elfbuf then
          some (fileSection elfbuf i).offset else none) := by
    intro i member
    have entry := fileSection_inside (inside.entries i (List.mem_range.mp member))
    simp only [nameTableRound, entry, ok_bind]
    by_cases strtab : (fileSection elfbuf i).type = shtStrtab
    · have read := inside.index ⟨fileSection elfbuf i, List.mem_map_of_mem member, strtab⟩
      rw [if_pos strtab, fileHalf_inside read]
      simp only [ok_bind, strtab, true_and]
      rfl
    · rw [if_neg strtab, if_neg fun both => strtab both.1]
  rw [nameTable_loop, mapM_of_all _ rounds, map_ok]
  rw [foldl_found (fileShstrndx elfbuf) (fun i => (fileSection elfbuf i).type = shtStrtab)]
  rfl

theorem nameTable_outside (outside : ¬ SectionsInside elfbuf) :
    (List.range (fileHeader elfbuf).shnum.toNat).foldlM
        (findNameTable elfbuf (fileHeader elfbuf)) none = .error .outOfBuffer := by
  have rounds : ∀ i, (∃ found, nameTableRound elfbuf (fileHeader elfbuf) i = .ok found) ∨
      nameTableRound elfbuf (fileHeader elfbuf) i = .error .outOfBuffer := by
    intro i
    unfold nameTableRound
    by_cases inside : EntryInside elfbuf (fileHeader elfbuf).shoff (fileHeader elfbuf).shentsize i
    · rw [fileSection_inside inside, ok_bind]
      split
      · rcases @fileHalf_cases elfbuf 50 with ⟨shstrndx, read⟩ | failed
        · exact .inl ⟨_, by rw [read, ok_bind]⟩
        · exact .inr (by rw [failed, error_bind])
      · exact .inl ⟨_, rfl⟩
    · exact .inr (by rw [elfSection_outside inside, error_bind])
  rw [nameTable_loop, mapM_of_some (fun i _ => rounds i), map_error]
  by_cases entries : ∀ i < (fileHeader elfbuf).shnum.toNat,
      EntryInside elfbuf (fileHeader elfbuf).shoff (fileHeader elfbuf).shentsize i
  · -- Then a string table makes the loader read `e_shstrndx`, and the header ends before it.
    have short : ¬ ((∃ sect ∈ fileSections elfbuf, sect.type = shtStrtab) → 52 ≤ elfbuf.length) :=
      fun index => outside ⟨entries, index⟩
    obtain ⟨⟨sect, member, strtab⟩, tooShort⟩ := Classical.not_imp.mp short
    obtain ⟨i, inTable, rfl⟩ := List.mem_map.mp member
    refine ⟨i, inTable, ?_⟩
    have entry := fileSection_inside (entries i (List.mem_range.mp inTable))
    simp only [nameTableRound, entry, ok_bind]
    rw [if_pos strtab, @fileHalf_outside elfbuf 50 (by omega), error_bind]
  · simp only [not_forall, exists_prop] at entries
    obtain ⟨i, below, beyond⟩ := entries
    refine ⟨i, List.mem_range.mpr below, ?_⟩
    rw [nameTableRound, elfSection_outside beyond, error_bind]

theorem overSections_inside {State : Type} (inside : SectionsInside elfbuf)
    (step : State → ElfSection → Except Abort State) (state : State) :
    overSections elfbuf (fileHeader elfbuf) step state =
      (fileSections elfbuf).foldlM step state := by
  rw [overSections, fileSections, List.foldlM_map]
  refine foldlM_congr (fun state i member => ?_) state
  rw [fileSection_inside (inside.entries i (List.mem_range.mp member)), ok_bind]

end Tables

end RiscVFast
