import Mathlib.Logic.Function.Basic
import RiscVFast.Lib.Sweep

/-! The first loop of `main`: it acts on the long options and takes them out of `argv`. -/

namespace RiscVFast

/-- `none` is a null pointer. -/
structure Arguments where
  argc : Nat
  argv : Nat → Option String

structure Options where
  doNewlib : Bool
  doCore : Bool
  quiet : Bool
  stdout : List String
  stderr : List String
deriving DecidableEq

def isLong (op : String) : Bool := ['-', '-'].isPrefixOf op.toList

def unknownOption (op : String) : String := "Unknown option: " ++ op ++ "\n"

def Options.print (options : Options) (line : String) : Options :=
  if options.quiet then options else { options with stdout := options.stdout ++ [line] }

def Options.act (options : Options) (op : String) : Options :=
  if op = "--newlib" then
    { options with doNewlib := true }.print "Newlib = 1\n"
  else if op = "--core" then
    { options with doCore := true }.print "Do_core = 1\n"
  else
    { options with stderr := options.stderr ++ [unknownOption op] }

def Arguments.remove (arguments : Arguments) (index : Nat) : Arguments where
  argc := arguments.argc - 1
  argv := (List.range' index (arguments.argc - index)).foldl
    (fun argv j => Function.update argv j (argv (j + 1))) arguments.argv

/-- The loop from `index` on; it fails where it would read through a null pointer. -/
def processLong (index : Nat) (arguments : Arguments) (options : Options) :
    Option (Arguments × Options) :=
  if index < arguments.argc then
    match arguments.argv index with
    | none => none
    | some op =>
        if isLong op then
          processLong (index + 1) (arguments.remove index) (options.act op)
        else
          processLong (index + 1) arguments options
  else
    some (arguments, options)
termination_by arguments.argc - index
decreasing_by
  · simp only [Arguments.remove]
    omega
  · omega

def longOptions : Arguments → Options → Option (Arguments × Options) := processLong 1

structure Arguments.Holds (arguments : Arguments) (items : List String) : Prop where
  argc : arguments.argc = items.length
  argv : ∀ index ≤ items.length, arguments.argv index = items[index]?

theorem foldl_shift (index count : Nat) (argv : Nat → Option String) (position : Nat) :
    (List.range' index count).foldl (fun argv j => Function.update argv j (argv (j + 1))) argv
        position =
      if index ≤ position ∧ position < index + count then argv (position + 1)
      else argv position := by
  induction count generalizing index argv with
  | zero => simp
  | succ count ih =>
      rw [List.range'_succ, List.foldl_cons, ih]
      simp only [Function.update_apply]
      by_cases first : position = index
      · subst first
        simp
      · by_cases inside : index ≤ position ∧ position < index + (count + 1)
        · rw [if_pos inside, if_pos (by omega), if_neg (by omega)]
        · rw [if_neg inside, if_neg (by omega), if_neg first]

theorem Arguments.Holds.remove {arguments : Arguments} {items : List String}
    (holds : arguments.Holds items) {index : Nat} (inside : index < items.length) :
    (arguments.remove index).Holds (items.eraseIdx index) := by
  have shorter : (items.eraseIdx index).length = items.length - 1 :=
    List.length_eraseIdx_of_lt inside
  constructor
  · rw [shorter, Arguments.remove, holds.argc]
  · intro position within
    rw [shorter] at within
    simp only [Arguments.remove, foldl_shift, holds.argc]
    rw [List.getElem?_eraseIdx]
    by_cases before : position < index
    · rw [if_neg (by omega), if_pos before, holds.argv _ (by omega)]
    · rw [if_pos (by omega), if_neg before, holds.argv _ (by omega)]

theorem processLong_of_past {index : Nat} {arguments : Arguments}
    (past : arguments.argc ≤ index) (options : Options) :
    processLong index arguments options = some (arguments, options) := by
  rw [processLong, if_neg (by omega)]

theorem processLong_sweeps (done rest : List String) {arguments : Arguments}
    (holds : arguments.Holds (done ++ rest)) (options : Options) :
    ∃ remaining, remaining.Holds (done ++ Sweep.kept isLong rest) ∧
      processLong done.length arguments options =
        some (remaining, (Sweep.deleted isLong rest).foldl Options.act options) := by
  match rest with
  | [] =>
      refine ⟨arguments, holds, processLong_of_past ?_ options⟩
      rw [holds.argc]
      simp
  | op :: rest =>
      have inside : done.length < (done ++ op :: rest).length := by simp
      have here : arguments.argv done.length = some op := by
        rw [holds.argv _ (by omega)]
        simp
      have round : done.length < arguments.argc := by
        rw [holds.argc]
        exact inside
      rw [processLong, if_pos round, here]
      by_cases long : isLong op = true
      · have removed : (arguments.remove done.length).Holds (done ++ rest) := by
          have erased := holds.remove inside
          rwa [List.eraseIdx_append_of_length_le (by omega), Nat.sub_self,
            List.eraseIdx_cons_zero] at erased
        simp only [if_pos long, Sweep.deleted_of_acts long, Sweep.kept_of_acts long,
          List.foldl_cons]
        -- the argument that moved to `done.length` is passed over
        match rest with
        | [] =>
            refine ⟨_, by simpa [Sweep.kept] using removed, processLong_of_past ?_ _⟩
            rw [removed.argc]
            simp
        | next :: rest =>
            have moved : (arguments.remove done.length).Holds (done ++ [next] ++ rest) := by
              simpa using removed
            obtain ⟨remaining, left, ran⟩ :=
              processLong_sweeps (done ++ [next]) rest moved (options.act op)
            refine ⟨remaining, by simpa using left, ?_⟩
            simpa using ran
      · rw [Bool.not_eq_true] at long
        have passed : arguments.Holds (done ++ [op] ++ rest) := by simpa using holds
        obtain ⟨remaining, left, ran⟩ := processLong_sweeps (done ++ [op]) rest passed options
        refine ⟨remaining, by simpa [Sweep.kept_of_not long] using left, ?_⟩
        simpa [long, Sweep.deleted_of_not long] using ran

def announced (op : String) : Option String :=
  if op = "--newlib" then some "Newlib = 1\n"
  else if op = "--core" then some "Do_core = 1\n"
  else none

def Options.acted (options : Options) (longs : List String) : Options where
  doNewlib := options.doNewlib || longs.contains "--newlib"
  doCore := options.doCore || longs.contains "--core"
  quiet := options.quiet
  stdout := options.stdout ++ if options.quiet then [] else longs.filterMap announced
  stderr := options.stderr ++
    (longs.filter fun op => op ≠ "--newlib" && op ≠ "--core").map unknownOption

theorem acted_cons (options : Options) (op : String) (longs : List String) :
    options.acted (op :: longs) = (options.act op).acted longs := by
  by_cases newlib : op = "--newlib"
  · subst newlib
    cases quiet : options.quiet <;>
      simp [Options.acted, Options.act, Options.print, announced, quiet]
  · by_cases core : op = "--core"
    · subst core
      cases quiet : options.quiet <;>
        simp [Options.acted, Options.act, Options.print, announced, quiet]
    · simp [Options.acted, Options.act, announced, newlib, core, Ne.symm newlib, Ne.symm core]

theorem foldl_act (longs : List String) (options : Options) :
    longs.foldl Options.act options = options.acted longs := by
  induction longs generalizing options with
  | nil => simp [Options.acted]
  | cons op longs ih => rw [List.foldl_cons, ih, acted_cons]

structure Extracted (items : List String) (options : Options) (remaining : Arguments)
    (after : Options) : Prop where
  remaining : remaining.Holds (items.take 1 ++ (items.drop 1).filter (! isLong ·))
  acted : after = options.acted ((items.drop 1).filter isLong)

theorem Arguments.Holds.unique {arguments : Arguments} {items others : List String}
    (first : arguments.Holds items) (second : arguments.Holds others) : items = others := by
  have sized : items.length = others.length := first.argc.symm.trans second.argc
  refine List.ext_getElem? fun index => ?_
  by_cases inside : index ≤ items.length
  · rw [← first.argv _ inside, second.argv _ (by omega)]
  · rw [List.getElem?_eq_none (by omega), List.getElem?_eq_none (by omega)]

theorem longOptions_sweeps {arguments : Arguments} {items : List String}
    (holds : arguments.Holds items) (options : Options) :
    ∃ remaining, remaining.Holds (items.take 1 ++ Sweep.kept isLong (items.drop 1)) ∧
      longOptions arguments options =
        some (remaining, (Sweep.deleted isLong (items.drop 1)).foldl Options.act options) := by
  cases items with
  | nil => exact ⟨arguments, holds, processLong_of_past (by simp [holds.argc]) options⟩
  | cons program rest => exact processLong_sweeps [program] rest holds options

/-- The options are extracted exactly when no two of the long ones are neighbours. -/
theorem longOptions_extracts_iff {arguments : Arguments} {items : List String}
    (holds : arguments.Holds items) (options : Options) :
    (∃ remaining after, longOptions arguments options = some (remaining, after) ∧
        Extracted items options remaining after) ↔
      (items.drop 1).IsChain fun op next => ¬ (isLong op = true ∧ isLong next = true) := by
  obtain ⟨left, kept, ran⟩ := longOptions_sweeps holds options
  constructor
  · rintro ⟨remaining, after, same, extracted⟩
    rw [ran] at same
    obtain ⟨rfl, rfl⟩ := Prod.mk.inj (Option.some.inj same)
    refine Sweep.kept_eq_filter_iff.mp ?_
    exact List.append_cancel_left (kept.unique extracted.remaining)
  · intro spaced
    refine ⟨_, _, ran, ?_, ?_⟩
    · rwa [Sweep.kept_of_spaced spaced] at kept
    · rw [Sweep.deleted_of_spaced spaced, foldl_act]

def Arguments.of (items : List String) : Arguments where
  argc := items.length
  argv index := items[index]?

theorem Arguments.of_holds (items : List String) : (Arguments.of items).Holds items :=
  ⟨rfl, fun _ _ => rfl⟩

def Options.initial : Options := ⟨false, false, true, [], []⟩

theorem longOptions_extracts_apart :
    ∃ remaining after,
      longOptions (Arguments.of ["RiscVFast", "--newlib", "-v", "--core", "demo.elf"]) .initial =
        some (remaining, after) ∧
      Extracted ["RiscVFast", "--newlib", "-v", "--core", "demo.elf"] .initial remaining after :=
  (longOptions_extracts_iff (Arguments.of_holds _) _).mpr (by decide)

/-- `--core` behind `--newlib` stays in `argv`, and memory for instructions cannot be written. -/
theorem longOptions_passes_over : ¬ ∀ (arguments : Arguments) (items : List String),
    arguments.Holds items → ∀ options, ∃ remaining after,
      longOptions arguments options = some (remaining, after) ∧
      Extracted items options remaining after := by
  intro always
  obtain ⟨remaining, after, ran, extracted⟩ :=
    always _ ["RiscVFast", "--newlib", "--core", "demo.elf"] (Arguments.of_holds _) .initial
  obtain ⟨left, kept, same⟩ :=
    longOptions_sweeps (Arguments.of_holds ["RiscVFast", "--newlib", "--core", "demo.elf"]) .initial
  rw [ran] at same
  obtain ⟨rfl, rfl⟩ := Prod.mk.inj (Option.some.inj same)
  have off : (Options.initial.acted ["--newlib", "--core"]).doCore = false := by
    have acted := congrArg Options.doCore extracted.acted
    rw [foldl_act] at acted
    exact acted.symm
  exact absurd off (by decide)

end RiscVFast
