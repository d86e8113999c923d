import PlanetServer.Host.Script
import PlanetServer.Host.World

/-!
# Running programs

What the ordinary programs and shell scripts print and how they end, on a machine given as a value.
Time passes only in `sleep`.

* `Host.exec` starts the file under a path with arguments, and refuses what cannot be started.
* `Outcome` is what a process printed, how long it ran, and how it ended.
-/

namespace PlanetServer.Host

open Utf8 (Bytes)

/-- How a process ended. -/
inductive Ending where
  /-- With an exit code. -/
  | exit (code : Nat)
  /-- By a signal. -/
  | signal
deriving DecidableEq, Repr

/-- What a process did. -/
structure Outcome where
  /-- What it printed. -/
  stdout : Bytes
  /-- What it printed as errors. -/
  stderr : Bytes
  /-- For how many milliseconds it ran. -/
  elapsed : Nat
  /-- How it ended. -/
  ending : Ending
deriving Repr

/-- A process that only ends with a code. -/
def Outcome.ofCode (code : Nat) : Outcome :=
  ⟨[], [], 0, .exit code⟩

/-- A process that prints and succeeds. -/
def Outcome.ofText (stdout : Bytes) : Outcome :=
  ⟨stdout, [], 0, .exit 0⟩

/-- A process that prints an error and fails with a code. -/
def Outcome.ofError (message : String) (code : Nat) : Outcome :=
  ⟨[], Utf8.encodeString (message ++ "\n"), 0, .exit code⟩

/-! ### Printing -/

/-- The value of at most `count` octal digits, and what follows them. -/
def octal : Nat → Nat → Bytes → Nat × Bytes
  | 0, value, bytes => (value, bytes)
  | _ + 1, value, [] => (value, [])
  | count + 1, value, b :: rest =>
    if 0x30 ≤ b ∧ b ≤ 0x37 then octal count (8 * value + (b.toNat - 0x30)) rest
    else (value, b :: rest)

/-- The byte that one letter after a backslash stands for. -/
def letterEscape? (b : UInt8) : Option UInt8 :=
  match Char.ofNat b.toNat with
  | 'a' => some 0x07
  | 'b' => some 0x08
  | 'f' => some 0x0C
  | 'n' => some 0x0A
  | 'r' => some 0x0D
  | 't' => some 0x09
  | 'v' => some 0x0B
  | '\\' => some 0x5C
  | '"' => some 0x22
  | _ => none

/-- What one escape stands for, after its backslash, and what follows it. Octal digits follow a
zero, or the backslash itself where `bareOctal` says so. -/
def byteEscape (bareOctal : Bool) : Bytes → Bytes × Bytes
  | [] => ([0x5C], [])
  | b :: rest =>
    match letterEscape? b with
    | some value => ([value], rest)
    | none =>
      if b = 0x30 ∧ !bareOctal then
        let (value, after) := octal 3 0 rest
        ([Utf8.byte (value % 256)], after)
      else if bareOctal ∧ 0x30 ≤ b ∧ b ≤ 0x37 then
        let (value, after) := octal 3 0 (b :: rest)
        ([Utf8.byte (value % 256)], after)
      else ([0x5C, b], rest)

/-- The text of a word of `echo`, and whether an escape asked to stop there. -/
def echoText : Nat → Bytes → Bytes × Bool
  | 0, bytes => (bytes, false)
  | _ + 1, [] => ([], false)
  | _ + 1, 0x5C :: 0x63 :: _ => ([], true)
  | fuel + 1, 0x5C :: rest =>
    let (text, after) := byteEscape false rest
    let (more, stopped) := echoText fuel after
    (text ++ more, stopped)
  | fuel + 1, b :: rest =>
    let (more, stopped) := echoText fuel rest
    (b :: more, stopped)

/-- Words with a space between each two of them. -/
def joinWords (words : List Bytes) : Bytes :=
  [0x20].intercalate words

/-- The words after an option not to end the line, and whether there was one. -/
def echoOption : List Bytes → Bool × List Bytes
  | word :: words => if word = [0x2D, 0x6E] then (true, words) else (false, word :: words)
  | [] => (false, [])

/-- Prints words on a line. Escapes count where `readsEscapes` says so. -/
def echo (readsEscapes : Bool) (words : List Bytes) : Outcome :=
  let (bare, words) := echoOption words
  let line := joinWords words
  let (text, stopped) := if readsEscapes then echoText line.length line else (line, false)
  .ofText (text ++ if bare || stopped then [] else [0x0A])

/-- The text of a number in an argument of `printf`. -/
def numberText (word : Bytes) : Bytes :=
  let digits := word.takeWhile fun b => b = 0x2D ∨ (0x30 ≤ b ∧ b ≤ 0x39)
  if digits.isEmpty then [0x30] else digits

/-- What one pass over a format prints, and the arguments that are left. -/
def formatOnce : Nat → Bytes → List Bytes → Bytes × List Bytes
  | 0, _, words => ([], words)
  | _ + 1, [], words => ([], words)
  | fuel + 1, 0x5C :: rest, words =>
    let (text, after) := byteEscape true rest
    let (more, words) := formatOnce fuel after words
    (text ++ more, words)
  | fuel + 1, 0x25 :: 0x25 :: rest, words =>
    let (more, words) := formatOnce fuel rest words
    (0x25 :: more, words)
  | fuel + 1, 0x25 :: kind :: rest, words =>
    let word := words.head?.getD []
    let text := match Char.ofNat kind.toNat with
      | 'd' | 'i' | 'u' => numberText word
      | 'b' => (echoText word.length word).1
      | 'c' => word.take 1
      | _ => word
    let (more, words) := formatOnce fuel rest words.tail
    (text ++ more, words)
  | fuel + 1, b :: rest, words =>
    let (more, words) := formatOnce fuel rest words
    (b :: more, words)

/-- What a format prints: it is used again as long as it uses up arguments. -/
def formatAll (format : Bytes) : Nat → List Bytes → Bytes
  | 0, _ => []
  | fuel + 1, words =>
    let (text, left) := formatOnce (format.length + 1) format words
    if left.isEmpty ∨ left.length = words.length then text else text ++ formatAll format fuel left

/-- Prints by a format. -/
def printf : List Bytes → Outcome
  | [] => .ofError "printf: usage: printf format [arg ...]" 2
  | format :: words => .ofText (formatAll format (words.length + 1) words)

/-! ### Files and conditions -/

/-- The text of a word. -/
def wordText (word : Bytes) : String :=
  String.ofList (Utf8.decodeLossy word)

/-- Prints files one after the other. A dash stands for the input. -/
def cat (w : World) (input : Bytes) : List Bytes → Outcome
  | [] => .ofText []
  | word :: words =>
    let rest := cat w input words
    if word = [0x2D] then { rest with stdout := input ++ rest.stdout }
    else
      match w.read ⟨word⟩ with
      | .ok content => { rest with stdout := content ++ rest.stdout }
      | .error why =>
        let reason := (why.message.splitOn " (").head?.getD ""
        let line := "cat: " ++ wordText word ++ ": " ++ reason ++ "\n"
        { rest with stderr := Utf8.encodeString line ++ rest.stderr, ending := .exit 1 }

/-- Prints files, or the input if none is named. -/
def catAll (w : World) (input : Bytes) (words : List Bytes) : Outcome :=
  if words.isEmpty then .ofText input else cat w input words

/-- The number that decimal digits stand for. -/
def decimal? (cs : List Char) : Option Nat :=
  if cs.isEmpty || !cs.all fun c => '0' ≤ c && c ≤ '9' then none
  else some (cs.foldl (fun n c => 10 * n + (c.toNat - '0'.toNat)) 0)

/-- The integer that a text stands for. -/
def integer? (s : String) : Option Int :=
  match s.toList with
  | '-' :: cs => (decimal? cs).map fun n => -(n : Int)
  | '+' :: cs => (decimal? cs).map Int.ofNat
  | cs => (decimal? cs).map Int.ofNat

/-- Whether a condition holds, none if it cannot be understood. -/
def holds? (w : World) : List String → Option Bool
  | [] => some false
  | [word] => some (word ≠ "")
  | ["!", word] => some (word = "")
  | ["-n", word] => some (word ≠ "")
  | ["-z", word] => some (word = "")
  | ["-e", path] => some (w.hasPath (.ofString path))
  | ["-f", path] =>
    some (w.hasPath (.ofString path) && !w.isDirectory (.ofString path))
  | ["-r", path] | ["-w", path] => some (w.hasPath (.ofString path))
  | ["-d", path] => some (w.isDirectory (.ofString path))
  | ["-x", path] => some (w.isExecutable (.ofString path) || w.isDirectory (.ofString path))
  | ["-s", path] =>
    match w.read (.ofString path) with
    | .ok content => some (!content.isEmpty)
    | .error _ => some (w.isDirectory (.ofString path))
  | ["!", op, path] => (holds? w [op, path]).map (!·)
  | [a, "=", b] => some (a = b)
  | [a, "!=", b] => some (a ≠ b)
  | [a, op, b] =>
    match integer? a, integer? b with
    | some a, some b =>
      match op with
      | "-eq" => some (a = b)
      | "-ne" => some (a ≠ b)
      | "-lt" => some (a < b)
      | "-le" => some (a ≤ b)
      | "-gt" => some (a > b)
      | "-ge" => some (a ≥ b)
      | _ => none
    | _, _ => none
  | _ => none

/-- Tests a condition. -/
def test (w : World) (words : List Bytes) : Outcome :=
  match holds? w (words.map wordText) with
  | some true => .ofCode 0
  | some false => .ofCode 1
  | none => .ofCode 2

/-- The milliseconds of a number of seconds. -/
def milliseconds (word : Bytes) : Nat :=
  let cs := Utf8.decodeLossy word
  let isDigit (c : Char) : Bool := '0' ≤ c && c ≤ '9'
  let value (digits : List Char) : Nat :=
    digits.foldl (fun n c => 10 * n + (c.toNat - '0'.toNat)) 0
  let whole := value (cs.takeWhile isDigit)
  let thousandths := ((cs.dropWhile isDigit).drop 1).take 3
  let fraction := value (thousandths ++ List.replicate (3 - thousandths.length) '0')
  1000 * whole + if thousandths.all isDigit then fraction else 0

/-- Waits. -/
def sleep (words : List Bytes) : Outcome :=
  ⟨[], [], words.foldl (fun total word => total + milliseconds word) 0, .exit 0⟩

/-! ### Shell scripts -/

/-- A shell that runs a script. -/
structure Shell where
  /-- The machine. -/
  world : World
  /-- The name of the script. -/
  name : Bytes
  /-- The arguments of the script. -/
  args : List Bytes
  /-- What it printed so far. -/
  stdout : Bytes
  /-- What it printed as errors so far. -/
  stderr : Bytes
  /-- The milliseconds that have passed. -/
  elapsed : Nat
  /-- The code of the last command. -/
  status : Nat
  /-- How the shell has ended, if it has. -/
  ended : Option Ending

namespace Shell

/-- The number under which every shell knows itself. -/
def ownNumber : Bytes :=
  Utf8.encodeString "4242"

/-- The text of a number. -/
def natBytes (n : Nat) : Bytes :=
  Utf8.encodeString n.repr

/-- The value of a parameter. -/
def parameter (sh : Shell) (name : String) : Bytes :=
  match name with
  | "$" => ownNumber
  | "#" => natBytes sh.args.length
  | "?" => natBytes sh.status
  | "*" | "@" => joinWords sh.args
  | "0" => sh.name
  | "PWD" => sh.world.cwd.bytes
  | name =>
    match decimal? name.toList with
    | some n => (sh.args[n - 1]?).getD []
    | none => (sh.world.env.bytes? name).getD []

/-- Whether a byte divides fields. -/
def isFieldGap (b : UInt8) : Bool :=
  b = 0x20 || b = 0x09 || b = 0x0A

/-- The pieces of some bytes between gaps. -/
def fieldsOf (bytes : Bytes) : List Bytes :=
  (bytes.splitBy fun a b => isFieldGap a == isFieldGap b).filter fun piece =>
    !(piece.head?.any isFieldGap)

/-- The fields of a word, given those of the rest of it. -/
def joinFields (left right : List Bytes) : List Bytes :=
  match left.getLast?, right with
  | some last, head :: rest => left.dropLast ++ (last ++ head) :: rest
  | none, right => right
  | _, [] => left

/-- The fields that a word stands for. Quoted text is one field even if it is empty. -/
def expand (sh : Shell) : ScriptWord → List Bytes
  | [] => []
  | .text cs :: rest => joinFields [Utf8.encode cs] (expand sh rest)
  | .parameter "@" true :: rest => joinFields sh.args (expand sh rest)
  | .parameter name true :: rest => joinFields [sh.parameter name] (expand sh rest)
  | .parameter name false :: rest => joinFields (fieldsOf (sh.parameter name)) (expand sh rest)

/-- Where a stream goes. -/
inductive Target where
  | stdout | stderr
  | file (path : Path) (isAppending : Bool)

/-- The streams of a command. -/
structure Streams where
  /-- Where its output goes. -/
  stdout : Target
  /-- Where its errors go. -/
  stderr : Target
  /-- Its input, none if a file for it is missing. -/
  input : Option Bytes

/-- The streams after a redirection. -/
def redirect (sh : Shell) (s : Streams) : Redirection → Streams
  | .duplicate 1 2 => { s with stdout := s.stderr }
  | .duplicate 2 1 => { s with stderr := s.stdout }
  | .duplicate _ _ => s
  | .write stream isAppending word =>
    let path : Path := ⟨(sh.expand word).head?.getD []⟩
    if stream = 1 then { s with stdout := .file path isAppending }
    else { s with stderr := .file path isAppending }
  | .read word =>
    match sh.world.read ⟨(sh.expand word).head?.getD []⟩ with
    | .ok content => { s with input := some content }
    | .error _ =>
      { s with input := if (sh.expand word).head? = some (Utf8.encodeString "/dev/null")
                        then some [] else none }

/-- The machine after something was written to a file. -/
def writeFile (w : World) (p : Path) (isAppending : Bool) (content : Bytes) : World :=
  if p = .ofString "/dev/null" then w
  else
    let before := match isAppending, w.read p with
      | true, .ok held => held
      | _, _ => []
    w.put p (.file (before ++ content) false)

/-- The shell after a stream of a command went to its target. -/
def deliver (sh : Shell) (target : Target) (content : Bytes) : Shell :=
  match target with
  | .stdout => { sh with stdout := sh.stdout ++ content }
  | .stderr => { sh with stderr := sh.stderr ++ content }
  | .file path isAppending => { sh with world := writeFile sh.world path isAppending content }

/-- The code of an `exit`. -/
def exitCode (sh : Shell) : List Bytes → Nat
  | [] => sh.status
  | word :: _ =>
    match decimal? (wordText word).toList with
    | some n => n % 256
    | none => 2

/-- Whether the words of a `kill` end the shell. -/
def endsItself (words : List Bytes) : Bool :=
  let signals := ["-0", "-CONT", "-18", "-CHLD", "-17", "-WINCH", "-28", "-URG", "-23"]
  match words.getLast? with
  | some target => target = ownNumber && !(words.dropLast.any fun word =>
      signals.contains (wordText word))
  | none => false

/-- What a command of the shell itself or an ordinary program does, given its input, none if it is
not known. -/
def builtin? (sh : Shell) (input : Bytes) (name : String) (words : List Bytes) : Option Outcome :=
  match name with
  | "echo" => some (echo true words)
  | "printf" => some (printf words)
  | "cat" => some (catAll sh.world input words)
  | "test" => some (test sh.world words)
  | "[" => some (test sh.world words.dropLast)
  | "sleep" => some (sleep words)
  | "pwd" => some (.ofText (sh.world.cwd.bytes ++ [0x0A]))
  | "true" | ":" => some (.ofCode 0)
  | "false" => some (.ofCode 1)
  | "kill" =>
    if endsItself words then some ⟨[], [], 0, .signal⟩ else some (.ofCode 0)
  | _ => none

/-- The shell after a command did something. -/
def absorb (sh : Shell) (s : Streams) (o : Outcome) (ends : Bool) : Shell :=
  let sh := (sh.deliver s.stdout o.stdout).deliver s.stderr o.stderr
  let sh := { sh with elapsed := sh.elapsed + o.elapsed }
  match o.ending with
  | .signal => { sh with ended := some .signal }
  | .exit code =>
    { sh with status := code, ended := if ends then some (.exit code) else sh.ended }

/-- The shell after a command whose words are known. Programs that are not known to the shell are
started by `start`. -/
def runWords (start : World → List Bytes → Outcome) (sh : Shell) (s : Streams) :
    List Bytes → Shell
  | [] => sh.absorb s (.ofCode 0) false
  | word :: words =>
    match s.input with
    | none => sh.absorb s (.ofError "sh: cannot open file" 2) false
    | some input =>
      let name := wordText word
      if name = "exit" then { sh with ended := some (.exit (sh.exitCode words)) }
      else if name = "exec" ∧ !words.isEmpty then
        match sh.builtin? input (wordText (words.head?.getD [])) words.tail with
        | some o => sh.absorb s o true
        | none => sh.absorb s (start sh.world words) true
      else if name = "cd" then
        let path : Path := ⟨words.head?.getD []⟩
        if sh.world.isDirectory path then
          { sh with world := { sh.world with cwd := sh.world.cwd.join path }, status := 0 }
        else sh.absorb s (.ofError "sh: cd: can't cd" 2) false
      else
        match sh.builtin? input name words with
        | some o => sh.absorb s o false
        | none => sh.absorb s (start sh.world (word :: words)) false

/-- The shell after a command that reads an input. -/
def runSimple (start : World → List Bytes → Outcome) (sh : Shell) (input : Bytes)
    (c : SimpleCommand) : Shell :=
  let streams := c.redirections.foldl sh.redirect ⟨.stdout, .stderr, some input⟩
  sh.runWords start streams (c.words.flatMap sh.expand)

/-- The shell after commands joined by pipes, each reading what the one before wrote. A command
within a pipe does not end the shell. -/
def runPipe (start : World → List Bytes → Outcome) (sh : Shell) (input : Bytes) :
    List SimpleCommand → Shell
  | [] => sh
  | [c] => sh.runSimple start input c
  | c :: rest =>
    let ran := { sh with stdout := [] }.runSimple start input c
    let next : Shell :=
      { sh with stderr := ran.stderr, elapsed := ran.elapsed, world := ran.world }
    let done := next.runPipe start ran.stdout rest
    match done.ended with
    | some (.exit code) => { done with ended := none, status := code }
    | _ => done

/-- Whether a command is run. -/
def admits (sh : Shell) : Condition → Bool
  | .always => true
  | .onSuccess => sh.status = 0
  | .onFailure => sh.status ≠ 0

/-- The shell after the commands of a script, up to the one that ends it. -/
def run (start : World → List Bytes → Outcome) (sh : Shell) : List Pipeline → Shell
  | [] => sh
  | p :: rest =>
    if sh.ended.isSome then sh
    else if sh.admits p.condition then (sh.runPipe start [] p.commands).run start rest
    else sh.run start rest

/-- What a shell did that has ended. -/
def outcome (sh : Shell) : Outcome :=
  ⟨sh.stdout, sh.stderr, sh.elapsed, sh.ended.getD (.exit sh.status)⟩

end Shell

/-- What a script does, by its text, its name and its arguments. -/
def runScript (start : World → List Bytes → Outcome) (w : World) (script name : Bytes)
    (args : List Bytes) : Outcome :=
  let sh : Shell := ⟨w, name, args, [], [], 0, 0, none⟩
  (sh.run start (Script.parse (Utf8.decodeLossy script))).outcome

/-! ### Starting files -/

/-- The interpreter that the first line of a script names, and its argument. -/
def interpreter? : Bytes → Option (Bytes × List Bytes)
  | 0x23 :: 0x21 :: rest =>
    match Shell.fieldsOf (rest.takeWhile (· ≠ 0x0A)) with
    | [] => none
    | path :: args => some (path, args)
  | _ => none

/-- What the shell does by its arguments. -/
def runShell (start : World → List Bytes → Outcome) (w : World) (args : List Bytes) : Outcome :=
  match args with
  | [] => .ofCode 0
  | flag :: rest =>
    if flag = Utf8.encodeString "-c" then
      match rest with
      | [] => .ofError "sh: 0: -c requires an argument" 2
      | [script] => runScript start w script (Utf8.encodeString "sh") []
      | script :: name :: args => runScript start w script name args
    else
      match w.read ⟨flag⟩ with
      | .ok script => runScript start w script flag rest
      | .error _ => .ofError "sh: 0: cannot open script" 2

/-- What an ordinary program does by its name and its arguments. -/
def runProgram (start : World → List Bytes → Outcome) (w : World) (name : String)
    (args : List Bytes) : Outcome :=
  match name with
  | "sh" => runShell start w args
  | "echo" => echo false args
  | "env" => start w args
  | name =>
    let sh : Shell := ⟨w, [], [], [], [], 0, 0, none⟩
    (sh.builtin? [] name args).getD (.ofCode 0)

/-- Starts the file under a path with arguments. Programs may start others up to a depth. -/
def exec : (depth : Nat) → World → Path → List Bytes → Except Refusal Outcome
  | 0, _, _, _ => .error .format
  | depth + 1, w, path, args =>
    let start (w : World) (words : List Bytes) : Outcome :=
      match words with
      | [] => .ofCode 0
      | word :: words =>
        let candidates : List Path :=
          if word.contains Path.slash then [⟨word⟩] else w.searchPath.map fun d => d.join ⟨word⟩
        match candidates.find? w.isExecutable with
        | none => .ofError (wordText word ++ ": not found") 127
        | some path =>
          match exec depth w path words with
          | .ok o => o
          | .error _ => .ofError (wordText word ++ ": not found") 127
    match w.find path with
    | .error why => .error why
    | .ok .directory => .error .denied
    | .ok (.program name) => .ok (runProgram start w name args)
    | .ok (.file content executable) =>
      if !executable then .error .denied
      else
        match interpreter? content with
        | none => .error .format
        | some (program, flags) => exec depth w ⟨program⟩ (flags ++ path.bytes :: args)

/-- How deeply programs may start others. -/
def maxDepth : Nat :=
  16

end PlanetServer.Host
