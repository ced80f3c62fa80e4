/-
# Container.Dockerfile -- the policy check of a Dockerfile

`validate_dockerfile`: logical lines by backslash continuation, shell words with
comments, and one pass over the instructions that pins every base image, keeps every
`COPY` and `ADD` inside the declared context and remembers the last `USER`.  The check
reads a list of instructions (`readInstructions`) and scans it (`scanInstructions`).
-/
import InstrumentBench.Theory.PyText
import InstrumentBench.Theory.Sha256
import InstrumentBench.Theory.Shlex

namespace InstrumentBench.Container

set_option autoImplicit false

open InstrumentBench.Theory
open InstrumentBench.Theory.Shlex (splitlines strip rstrip)

/-- `ImagePolicyError(message)` -/
structure ImagePolicyError where
  message : Text
deriving DecidableEq

abbrev Checked (α : Type) := Except ImagePolicyError α

def refuse {α : Type} (message : Text) : Checked α := .error ⟨message⟩

/-- A message that ends in a line number. -/
def refuseAt {α : Type} (message : String) (line : Nat) : Checked α :=
  refuse (txt message ++ PyText.natText line)

/-- What the check reads of a `ContainerContract`. -/
structure ContainerContract where
  dockerfileSha256 : Text
  contextFiles : List Text

/-- `RUNTIME_USER` -/
def runtimeUser : Text := txt "10001:10001"

/-! ## Paths -/

/-- `PurePosixPath` -/
structure PurePosixPath where
  root : Text
  names : List Text
deriving DecidableEq

namespace PurePosixPath

def slash : CodePoint := CodePoint.ofChar '/'

/-- `PurePosixPath(source)` -/
def of (source : Text) : PurePosixPath where
  root :=
    if txt "//" <+: source ∧ ¬txt "///" <+: source then txt "//"
    else if txt "/" <+: source then txt "/" else []
  names := (source.splitOn slash).filter fun name => name ≠ [] ∧ name ≠ txt "."

/-- `path.parts` -/
def parts (p : PurePosixPath) : List Text := if p.root = [] then p.names else p.root :: p.names

/-- `path.is_absolute()` -/
def isAbsolute (p : PurePosixPath) : Bool := p.root ≠ []

/-- `str(path)` -/
def str (p : PurePosixPath) : Text :=
  if p.root = [] ∧ p.names = [] then txt "." else p.root ++ PyText.join [slash] p.names

/-- `p in q.parents` -/
def IsParent (p q : PurePosixPath) : Prop :=
  p.root = q.root ∧ p.names <+: q.names ∧ p.names ≠ q.names

instance (p q : PurePosixPath) : Decidable (p.IsParent q) :=
  inferInstanceAs (Decidable (_ ∧ _))

end PurePosixPath

/-! ## Reading -/

/-- The logical lines with the numbers they start at: `pending` is what the lines before
left to be continued, since `start`. -/
def logicalFrom (pending : Text) (start number : Nat) : List Text → Checked (List (Nat × Text))
  | [] => if pending = [] then .ok [] else refuse (txt "unterminated Dockerfile continuation")
  | raw :: rest =>
      let start := if pending = [] then number else start
      if [Shlex.backslash] <:+ rstrip raw then
        logicalFrom (pending ++ (rstrip raw).dropLast ++ txt " ") start (number + 1) rest
      else (logicalFrom [] start (number + 1) rest).map ((start, pending ++ raw) :: ·)

/-- `_logical_lines` -/
def logicalLines (text : Text) : Checked (List (Nat × Text)) :=
  logicalFrom [] 0 1 (splitlines text)

/-- Upper case, as far as it makes an ASCII letter. -/
def upperChar (c : CodePoint) : CodePoint :=
  if c.val = 0x17F then CodePoint.ofChar 'S'
  else if c.val = 0x131 then CodePoint.ofChar 'I' else PyText.upperChar c

/-- `word.upper()` -/
def upper (word : Text) : Text := word.map upperChar

/-- An instruction: the line it starts at, its name and its arguments. -/
structure Instruction where
  line : Nat
  name : Text
  arguments : List Text
deriving DecidableEq

/-- What a logical line says; nothing, if it is blank or a comment. -/
def readLine (line : Nat × Text) : Checked (Option Instruction) :=
  let stripped := strip line.2
  if stripped = [] ∨ [Shlex.hash] <+: stripped then .ok none
  else
    match Shlex.split true stripped with
    | .error e =>
        refuse (txt "cannot parse Dockerfile line " ++ PyText.natText line.1 ++ txt ": " ++ e.message)
    | .ok [] => .ok none
    | .ok (name :: arguments) => .ok (some ⟨line.1, upper name, arguments⟩)

/-! ## Policy -/

/-- `_DIGEST_IMAGE.fullmatch(image)` -/
def isDigestImage (image : Text) : Bool :=
  match PyText.splitOnce (CodePoint.ofChar '@') image with
  | none => false
  | some (name, digest) =>
      name ≠ [] && name.all (fun c => !Shlex.isSpace c) &&
        txt "sha256:" <+: digest && isHexDigest (digest.drop 7)

/-- Characters that differ in case only, as far as the schemes are concerned. -/
def foldChar (c : CodePoint) : CodePoint :=
  if c.val = 0x17F then CodePoint.ofChar 's'
  else if c.val = 0x130 ∨ c.val = 0x131 then CodePoint.ofChar 'i' else PyText.lowerChar c

/-- `_REMOTE.match(source)` -/
def isRemote (source : Text) : Bool :=
  [txt "http://", txt "https://", txt "git://", txt "ssh://"].any fun scheme =>
    scheme <+: source.map foldChar

/-- `_FORBIDDEN_BUILD_INPUTS` -/
def forbiddenBuildInputs : List Text :=
  [txt "solution.py", txt "candidate", txt "evaluator", txt "instrument_service", txt "oracle",
    txt "pyvisa_sim", txt "service", txt "worlds", txt "simulator", txt ".git"]

/-- `_WILDCARD_CHARACTERS` -/
def wildcardCharacters : Text := txt "*?["

def isOption (argument : Text) : Bool := txt "--" <+: argument

/-- `_from_image` -/
def fromImage (arguments : List Text) (line : Nat) : Checked Text :=
  match arguments.dropWhile isOption with
  | [] => refuseAt "missing FROM image at line " line
  | image :: _ => .ok image

/-- The options of a `COPY` or an `ADD`. -/
def checkOption (instruction : Text) (line : Nat) (option : Text) : Checked Unit :=
  if option = txt "--from" ∨ txt "--from=" <+: option then
    refuseAt "COPY from build stages is forbidden at line " line
  else if txt "--chown=" <+: option ∨ txt "--chmod=" <+: option then .ok ()
  else refuse (txt "unsupported " ++ instruction ++ txt " option at line " ++ PyText.natText line)

/-- `_build_sources` -/
def buildSources (arguments : List Text) (instruction : Text) (line : Nat) :
    Checked (List Text) := do
  (arguments.takeWhile isOption).forM (checkOption instruction line)
  let values := arguments.dropWhile isOption
  if values.length < 2 then
    refuse (instruction ++ txt " requires a source and destination at line " ++
      PyText.natText line)
  else if values.any fun value => txt "[" <+: value || txt "]" <:+ value then
    refuse (txt "JSON-form " ++ instruction ++ txt " is unsupported at line " ++
      PyText.natText line)
  else .ok values.dropLast

/-- What is forbidden of a source. -/
def isForbidden (source : Text) : Bool :=
  (PurePosixPath.of source).parts.any fun part => PyText.lower part ∈ forbiddenBuildInputs

/-- `_reject_forbidden_inputs` -/
def rejectForbiddenInputs (sources : List Text) (line : Nat) : Checked Unit :=
  if sources.any isForbidden then refuseAt "candidate source or hidden material at line " line
  else .ok ()

/-- The source is a declared file or one of its directories. -/
def isDeclared (contract : ContainerContract) (source : Text) : Bool :=
  contract.contextFiles.any fun file =>
    PurePosixPath.of file = PurePosixPath.of source ||
      (PurePosixPath.of source).IsParent (PurePosixPath.of file)

def validateBuildInput (contract : ContainerContract) (line : Nat) (source : Text) :
    Checked Unit :=
  let relative := PurePosixPath.of source
  if source.any fun c => c ∈ wildcardCharacters then
    refuseAt "COPY/ADD wildcards are forbidden at line " line
  else if Shlex.backslash ∈ source then refuseAt "invalid build-context path at line " line
  else if relative.isAbsolute ∨ txt ".." ∈ relative.parts ∨ relative.str ∈ [[], txt "."] then
    refuseAt "invalid build-context path at line " line
  else if isDeclared contract source then .ok ()
  else refuseAt "source is outside declared context at line " line

/-- `_validate_build_inputs` -/
def validateBuildInputs (sources : List Text) (contract : ContainerContract) (line : Nat) :
    Checked Unit := do
  rejectForbiddenInputs sources line
  sources.forM (validateBuildInput contract line)

/-! ## The pass over the instructions -/

/-- `base_images` and `final_user`. -/
structure Scan where
  baseImages : List Text
  finalUser : Option Text

/-- One turn of the loop. -/
def scanInstruction (contract : ContainerContract) (s : Scan) (i : Instruction) : Checked Scan :=
  if i.name = txt "FROM" then do
    let image ← fromImage i.arguments i.line
    if isDigestImage image then .ok { s with baseImages := s.baseImages ++ [image] }
    else refuse (txt "FROM line " ++ PyText.natText i.line ++ txt " must be digest-pinned")
  else if i.name = txt "ADD" then do
    let sources ← buildSources i.arguments i.name i.line
    if sources.any isRemote then refuse (txt "remote ADD is forbidden")
    else
      validateBuildInputs sources contract i.line
      .ok s
  else if i.name = txt "COPY" then do
    let sources ← buildSources i.arguments i.name i.line
    validateBuildInputs sources contract i.line
    .ok s
  else if i.name = txt "USER" then
    match i.arguments with
    | [user] => .ok { s with finalUser := some user }
    | _ => refuseAt "invalid USER at line " i.line
  else .ok s

/-- The loop over the logical lines. -/
def scanLines (contract : ContainerContract) (s : Scan) : List (Nat × Text) → Checked Scan
  | [] => .ok s
  | line :: rest => do
      match ← readLine line with
      | none => scanLines contract s rest
      | some i =>
          let s ← scanInstruction contract s i
          scanLines contract s rest

/-- `DockerfileEvidence` -/
structure DockerfileEvidence where
  dockerfileSha256 : Text
  baseImages : List Text
  finalUser : Text
deriving DecidableEq

/-- `validate_dockerfile`, of the bytes that were read. -/
def validateDockerfile (payload : Bytes) (contract : ContainerContract) :
    Checked DockerfileEvidence :=
  match decodeUtf8 false payload with
  | none => refuse (txt "cannot read Dockerfile: invalid UTF-8")
  | some text =>
      if hexdigest payload ≠ contract.dockerfileSha256 then
        refuse (txt "Dockerfile hash does not match image lock")
      else do
        let lines ← logicalLines text
        let s ← scanLines contract ⟨[], none⟩ lines
        if s.baseImages = [] then refuse (txt "Dockerfile must contain a digest-pinned FROM")
        else if s.finalUser = some runtimeUser then
          .ok ⟨hexdigest payload, s.baseImages, runtimeUser⟩
        else refuse (txt "final USER " ++ runtimeUser ++ txt " is required")

end InstrumentBench.Container
