/-
# Container.Stages -- build stages, and the user of the last of them

The check of a Dockerfile as two passes: the instructions are read
(`readInstructions`) and scanned (`scanInstructions`, `scanLines_ok_iff`).  The scan
remembers the last `USER` of the whole file (`scanInstructions_user`), across the `FROM`
of later stages, so that the last stage of an accepted file runs as the required user
exactly when it has a `USER` of its own (`final_stage_user_iff`).
-/
import InstrumentBench.Container.Dockerfile
import InstrumentBench.Theory.Stateful
import Mathlib.Data.List.DropRight

namespace InstrumentBench.Container

set_option autoImplicit false

open InstrumentBench.Theory

/-! ## Instructions -/

/-- The instructions of logical lines. -/
def readInstructions : List (Nat × Text) → Checked (List Instruction)
  | [] => .ok []
  | line :: rest => do
      let i ← readLine line
      let later ← readInstructions rest
      .ok (i.toList ++ later)

/-- The loop over the instructions. -/
def scanInstructions (contract : ContainerContract) (s : Scan) : List Instruction → Checked Scan
  | [] => .ok s
  | i :: rest => do
      let s ← scanInstruction contract s i
      scanInstructions contract s rest

/-- The instructions of a file, as the check reads them. -/
def instructionsOf (payload : Bytes) : Checked (List Instruction) :=
  match decodeUtf8 false payload with
  | none => refuse (txt "cannot read Dockerfile: invalid UTF-8")
  | some text => do
      let lines ← logicalLines text
      readInstructions lines

/-- Reading and scanning in one loop is reading, then scanning. -/
theorem scanLines_ok_iff {contract : ContainerContract} {lines : List (Nat × Text)} {s s' : Scan} :
    scanLines contract s lines = .ok s' ↔
      ∃ instructions, readInstructions lines = .ok instructions ∧
        scanInstructions contract s instructions = .ok s' := by
  induction lines generalizing s with
  | nil => simp [scanLines, readInstructions, scanInstructions]
  | cons line rest ih =>
      unfold scanLines readInstructions
      cases readLine line with
      | error e => simp [bind, Except.bind]
      | ok read =>
          cases read with
          | none =>
              show scanLines contract s rest = .ok s' ↔ _
              rw [ih]
              cases readInstructions rest with
              | error e => simp [bind, Except.bind]
              | ok later => simp [bind, Except.bind]
          | some i =>
              show (scanInstruction contract s i >>= fun s => scanLines contract s rest) = .ok s' ↔ _
              rw [bind_ok_iff]
              simp only [ih]
              cases readInstructions rest with
              | error e => simp [bind, Except.bind]
              | ok later =>
                  simp only [bind, Except.bind, Except.ok.injEq, exists_eq_left',
                    Option.toList_some, List.singleton_append]
                  show _ ↔ (scanInstruction contract s i >>= fun s =>
                    scanInstructions contract s later) = .ok s'
                  rw [bind_ok_iff]

/-- What an accepted file went through. -/
theorem validateDockerfile_ok {payload : Bytes} {contract : ContainerContract}
    {evidence : DockerfileEvidence} (accepted : validateDockerfile payload contract = .ok evidence) :
    ∃ instructions s, instructionsOf payload = .ok instructions ∧
      scanInstructions contract ⟨[], none⟩ instructions = .ok s ∧ s.baseImages ≠ [] ∧
      s.finalUser = some runtimeUser := by
  unfold validateDockerfile at accepted
  unfold instructionsOf
  cases decoded : decodeUtf8 false payload with
  | none =>
      rw [decoded] at accepted
      cases accepted
  | some text =>
      rw [decoded] at accepted
      dsimp only at accepted
      split at accepted
      case isTrue => cases accepted
      case isFalse =>
          obtain ⟨lines, logical, rest⟩ := bind_ok_iff.1 accepted
          obtain ⟨s, scanned, rest⟩ := bind_ok_iff.1 rest
          obtain ⟨instructions, read, scanned⟩ := scanLines_ok_iff.1 scanned
          split at rest
          case isTrue => cases rest
          case isFalse based =>
              split at rest
              case isTrue user =>
                  refine ⟨instructions, s, ?_, scanned, based, user⟩
                  show (logicalLines text >>= readInstructions) = _
                  rw [logical]
                  exact read
              case isFalse => cases rest

/-! ## Users -/

/-- The instruction names a user. -/
def Instruction.IsUser (i : Instruction) : Prop := i.name = txt "USER"

instance (i : Instruction) : Decidable i.IsUser := inferInstanceAs (Decidable (_ = _))

def Instruction.IsFrom (i : Instruction) : Prop := i.name = txt "FROM"

instance (i : Instruction) : Decidable i.IsFrom := inferInstanceAs (Decidable (_ = _))

/-- The last `USER` of a list of instructions. -/
def lastUser (instructions : List Instruction) : Option Instruction :=
  (instructions.filter fun i => i.IsUser).getLast?

/-- The instructions after the last `FROM`. -/
def finalStage (instructions : List Instruction) : List Instruction :=
  instructions.rtakeWhile fun i => !decide i.IsFrom

/-- The last `USER` there is names the user, and there is one. -/
def RunsAs (user : Text) (stage : List Instruction) : Prop :=
  ∃ i, lastUser stage = some i ∧ i.arguments = [user]

theorem lastUser_cons (i : Instruction) (rest : List Instruction) :
    lastUser (i :: rest) = (lastUser rest).or (if i.IsUser then some i else none) := by
  unfold lastUser
  rw [List.filter_cons]
  by_cases user : i.IsUser
  · simp only [user, decide_true, if_true]
    rw [List.getLast?_cons]
    cases (rest.filter fun i => decide i.IsUser).getLast? <;> rfl
  · simp [user]

/-- What one instruction does to the user that is remembered. -/
theorem scanInstruction_user {contract : ContainerContract} {s s' : Scan} {i : Instruction}
    (scanned : scanInstruction contract s i = .ok s') :
    (i.IsUser ∧ ∃ user, i.arguments = [user] ∧ s'.finalUser = some user) ∨
      (¬i.IsUser ∧ s'.finalUser = s.finalUser) := by
  have differ : txt "FROM" ≠ txt "USER" ∧ txt "ADD" ≠ txt "USER" ∧ txt "COPY" ≠ txt "USER" := by
    decide
  unfold scanInstruction at scanned
  unfold Instruction.IsUser
  split at scanned
  case isTrue name =>
      obtain ⟨image, -, rest⟩ := bind_ok_iff.1 scanned
      split at rest
      · cases rest
        exact Or.inr ⟨by rw [name]; exact differ.1, rfl⟩
      · cases rest
  case isFalse =>
  split at scanned
  case isTrue name =>
      obtain ⟨sources, -, rest⟩ := bind_ok_iff.1 scanned
      split at rest
      · cases rest
      · obtain ⟨⟨⟩, -, rest⟩ := bind_ok_iff.1 rest
        cases rest
        exact Or.inr ⟨by rw [name]; exact differ.2.1, rfl⟩
  case isFalse =>
  split at scanned
  case isTrue name =>
      obtain ⟨sources, -, rest⟩ := bind_ok_iff.1 scanned
      obtain ⟨⟨⟩, -, rest⟩ := bind_ok_iff.1 rest
      cases rest
      exact Or.inr ⟨by rw [name]; exact differ.2.2, rfl⟩
  case isFalse =>
  split at scanned
  case isTrue name =>
      split at scanned
      case h_1 user arguments =>
          cases scanned
          exact Or.inl ⟨name, user, arguments, rfl⟩
      case h_2 => cases scanned
  case isFalse name =>
      cases scanned
      exact Or.inr ⟨name, rfl⟩

/-- After the scan the user is that of the last `USER` of the file. -/
theorem scanInstructions_user {contract : ContainerContract} {instructions : List Instruction}
    {s s' : Scan} (scanned : scanInstructions contract s instructions = .ok s') :
    match lastUser instructions with
    | some i => ∃ user, i.arguments = [user] ∧ s'.finalUser = some user
    | none => s'.finalUser = s.finalUser := by
  induction instructions generalizing s with
  | nil =>
      cases scanned
      exact rfl
  | cons i rest ih =>
      obtain ⟨middle, first, later⟩ := bind_ok_iff.1 scanned
      have after := ih later
      rw [lastUser_cons]
      cases found : lastUser rest with
      | some j =>
          rw [found] at after
          exact after
      | none =>
          rw [found] at after
          have kept : s'.finalUser = middle.finalUser := after
          rcases scanInstruction_user first with ⟨user, name, arguments, set⟩ | ⟨other, same⟩
          · rw [if_pos user]
            exact ⟨name, arguments, by rw [kept, set]⟩
          · rw [if_neg other]
            show s'.finalUser = s.finalUser
            rw [kept, same]

/-- A `USER` in the last stage is after every other. -/
theorem lastUser_of_finalStage {instructions : List Instruction} {i : Instruction}
    (last : lastUser (finalStage instructions) = some i) : lastUser instructions = some i := by
  have whole : instructions = (instructions.rdropWhile fun i => !decide i.IsFrom) ++
      finalStage instructions := by
    rw [finalStage, List.rtakeWhile, List.rdropWhile, ← List.reverse_append,
      List.takeWhile_append_dropWhile, List.reverse_reverse]
  rw [whole]
  unfold lastUser at last ⊢
  rw [List.filter_append, List.getLast?_append, last]
  rfl

/-- **The last stage of an accepted file runs as the required user exactly when it has a
`USER` of its own.** -/
theorem final_stage_user_iff {payload : Bytes} {contract : ContainerContract}
    {evidence : DockerfileEvidence} (accepted : validateDockerfile payload contract = .ok evidence) :
    ∃ instructions, instructionsOf payload = .ok instructions ∧
      (RunsAs runtimeUser (finalStage instructions) ↔
        ∃ i ∈ finalStage instructions, i.IsUser) := by
  obtain ⟨instructions, s, read, scanned, -, user⟩ := validateDockerfile_ok accepted
  refine ⟨instructions, read, ?_, ?_⟩
  · rintro ⟨i, last, -⟩
    have member := List.mem_of_getLast? last
    rw [List.mem_filter, decide_eq_true_iff] at member
    exact ⟨i, member⟩
  · rintro ⟨i, member, isUser⟩
    have some : (finalStage instructions).filter (fun i => i.IsUser) ≠ [] :=
      List.ne_nil_of_mem (List.mem_filter.2 ⟨member, decide_eq_true isUser⟩)
    obtain ⟨j, last⟩ := Option.ne_none_iff_exists'.1 (mt List.getLast?_eq_none_iff.1 some)
    have after := scanInstructions_user scanned
    rw [lastUser_of_finalStage last] at after
    obtain ⟨name, arguments, set⟩ := after
    refine ⟨j, last, ?_⟩
    rw [user] at set
    rw [arguments, Option.some.inj set]

/-! ## Two stages -/

/-- An image that is pinned. -/
def pinnedImage (name : String) : Text :=
  txt name ++ txt "@sha256:" ++ List.replicate 64 (CodePoint.ofChar '1')

/-- The text in bytes. -/
def bytesOf (t : Text) : Bytes := t.map fun c => UInt8.ofNat c.val

/-- Two stages, each with the instructions after its `FROM`. -/
def twoStages (first second : String) : Bytes :=
  bytesOf (txt "FROM " ++ pinnedImage "a" ++ txt first ++ txt "\nFROM " ++ pinnedImage "b" ++
    txt second)

/-- A contract that locks the file. -/
def lockOf (payload : Bytes) : ContainerContract := ⟨hexdigest payload, [txt "app/main.py"]⟩

def userLine : String := "\nUSER 10001:10001\n"

/-- A user in the last stage only. -/
theorem final_stage_user_of_last :
    ∃ instructions, instructionsOf (twoStages "" userLine) = .ok instructions ∧
      RunsAs runtimeUser (finalStage instructions) := by
  have accepted : (validateDockerfile (twoStages "" userLine)
      (lockOf (twoStages "" userLine))).toOption.isSome = true := by decide +kernel
  have stage : ((instructionsOf (twoStages "" userLine)).toOption.map fun instructions =>
      (finalStage instructions).any fun i => i.IsUser) = some true := by decide +kernel
  obtain ⟨evidence, made⟩ := Option.isSome_iff_exists.1 accepted
  obtain ⟨instructions, read, runs⟩ := final_stage_user_iff (ok_of_toOption made)
  refine ⟨instructions, read, runs.2 ?_⟩
  rw [read] at stage
  obtain ⟨i, member, isUser⟩ := List.any_eq_true.1 (Option.some.inj stage)
  exact ⟨i, member, of_decide_eq_true isUser⟩

/-- **The user of an earlier stage passes for that of the last.** -/
theorem earlier_user_accepted :
    (validateDockerfile (twoStages userLine "\n")
        (lockOf (twoStages userLine "\n"))).toOption.isSome = true ∧
      (instructionsOf (twoStages userLine "\n")).toOption.map
        (fun instructions => lastUser (finalStage instructions)) = some none := by
  decide +kernel

end InstrumentBench.Container
