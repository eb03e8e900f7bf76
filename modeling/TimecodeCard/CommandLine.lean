import TimecodeCard.Simulation.Session
import TimecodeCard.Text.Decimal

/-!
# Command line

The program takes options only, each at most once. An option with a value is written
`--name value` or `--name=value`; a flag stands alone. The value after a blank must not begin with
a hyphen, except for the target of the time code output, which may be negative. The log level has
the short name `-l`, whose value may also follow without a blank. A lone `--` ends the options and
leaves nothing to follow it.

`CommandLine.parse` reads the arguments into `Arguments`, which hold the settings of the session
and what else the program is told. Everything it does not take is a `UsageProblem`.
-/

namespace TimecodeCard

/-- What the program is told by its arguments. -/
structure Arguments where
  settings : Settings := {}
  /-- Whether each period takes its real time. -/
  realtime : Bool := false
  /-- Whether the log is written. -/
  logging : Bool := false
  deriving DecidableEq, Repr, Inhabited

namespace CommandLine

/-! ## Options -/

/-- An option of the program. -/
inductive Opt
  | ioType
  | noTco
  | rate
  | periodSize
  | ltcFormat
  | periods
  | realtime
  | ltcIn
  | ltcOut
  | ltcOutTarget
  | logLevel
  deriving DecidableEq, Repr

namespace Opt

/-- Every option. -/
def all : List Opt :=
  [.ioType, .noTco, .rate, .periodSize, .ltcFormat, .periods, .realtime, .ltcIn, .ltcOut,
    .ltcOutTarget, .logLevel]

/-- The name of the option, after its two hyphens. -/
def name : Opt → String
  | .ioType => "io-type"
  | .noTco => "no-tco"
  | .rate => "rate"
  | .periodSize => "period-size"
  | .ltcFormat => "ltc-format"
  | .periods => "periods"
  | .realtime => "realtime"
  | .ltcIn => "ltc-in"
  | .ltcOut => "ltc-out"
  | .ltcOutTarget => "ltc-out-target"
  | .logLevel => "log-level"

/-- Whether the option stands alone. -/
def isFlag : Opt → Bool
  | .noTco | .realtime => true
  | _ => false

/-- Whether a value of the option may begin with a hyphen. -/
def takesHyphen : Opt → Bool
  | .ltcOutTarget => true
  | _ => false

/-- The option of the name. -/
def ofName? (name : String) : Option Opt :=
  all.find? fun o => o.name == name

end Opt

/-- Why the arguments are not taken. -/
inductive UsageProblem
  /-- Help is asked for. -/
  | help
  | unexpected (argument : String)
  | repeated (o : Opt)
  | missingValue (o : Opt)
  | needlessValue (o : Opt)
  | badValue (o : Opt) (value : String)
  deriving DecidableEq, Repr

/-- The words for the problem. -/
def UsageProblem.message : UsageProblem → String
  | .help => "Options: " ++ ", ".intercalate (Opt.all.map fun o => "--" ++ o.name)
  | .unexpected argument => "unexpected argument '" ++ argument ++ "'"
  | .repeated o => "--" ++ o.name ++ " is given more than once"
  | .missingValue o => "--" ++ o.name ++ " needs a value"
  | .needlessValue o => "--" ++ o.name ++ " takes no value"
  | .badValue o value => "--" ++ o.name ++ " does not take the value '" ++ value ++ "'"

/-! ## Splitting the arguments -/

/-- An option as it is given, with its value if it has one. -/
structure Given where
  opt : Opt
  value : String := ""
  deriving DecidableEq, Repr

/-- The name before the first equals sign, and the value after it if there is one. -/
def splitEquals (cs : List Char) : List Char × Option (List Char) :=
  (cs.takeWhile (· ≠ '='), (cs.dropWhile (· ≠ '=')).tail?)

/-- An argument on its own. -/
inductive Token
  /-- The end of the options. -/
  | ending
  /-- An option by its name, with the value after an equals sign. -/
  | long (name : List Char) (value : Option (List Char))
  /-- An option by its letter, with the text which follows. -/
  | short (letter : Char) (rest : List Char)
  | other
  deriving DecidableEq, Repr

/-- The argument as a token. -/
def tokenOf (argument : String) : Token :=
  match argument.toList with
  | ['-', '-'] => .ending
  | '-' :: '-' :: cs =>
    let (name, value) := splitEquals cs
    .long name value
  | '-' :: letter :: rest => .short letter rest
  | _ => .other

/-- Whether a value after a blank is taken for an option instead. -/
def looksLikeOption (argument : String) : Bool :=
  argument.toList.head? = some '-'

/-- The option with its value, which is attached to it or else the next argument; also the
arguments which are left. -/
def takeValue (o : Opt) (attached : Option (List Char)) (rest : List String) :
    Except UsageProblem (Given × List String) :=
  match attached, rest with
  | some value, rest => .ok ({ opt := o, value := String.ofList value }, rest)
  | none, [] => .error (.missingValue o)
  | none, value :: rest =>
    if looksLikeOption value ∧ ¬ o.takesHyphen then .error (.missingValue o)
    else .ok ({ opt := o, value }, rest)

/-- The value which follows a letter without a blank. An equals sign between is left out. -/
def attachedToLetter : List Char → Option (List Char)
  | [] => none
  | '=' :: value => some value
  | value => some value

/-- The first option in the arguments, and the arguments which are left; none at the end of the
options. -/
def takeOption (argument : String) (rest : List String) :
    Except UsageProblem (Option Given × List String) :=
  match tokenOf argument with
  | .ending =>
    match rest with
    | [] => .ok (none, [])
    | extra :: _ => .error (.unexpected extra)
  | .other => .error (.unexpected argument)
  | .short 'h' _ => .error .help
  | .short 'l' attached =>
    (takeValue .logLevel (attachedToLetter attached) rest).map fun (g, rest) => (some g, rest)
  | .short .. => .error (.unexpected argument)
  | .long name value =>
    match Opt.ofName? (String.ofList name) with
    | none => if String.ofList name = "help" then .error .help else .error (.unexpected argument)
    | some o =>
      if o.isFlag then
        if value.isSome then .error (.needlessValue o) else .ok (some { opt := o }, rest)
      else (takeValue o value rest).map fun (g, rest) => (some g, rest)

theorem takeValue_length_le {o : Opt} {attached : Option (List Char)} {rest : List String}
    {g : Given} {left : List String} (h : takeValue o attached rest = .ok (g, left)) :
    left.length ≤ rest.length := by
  unfold takeValue at h
  split at h
  · simp_all
  · simp at h
  · split at h
    · simp at h
    · simp only [Except.ok.injEq, Prod.mk.injEq] at h
      simp [← h.2]

theorem takeOption_length_le {argument : String} {rest : List String} {g : Option Given}
    {left : List String} (h : takeOption argument rest = .ok (g, left)) :
    left.length ≤ rest.length := by
  have value : ∀ {o attached},
      (takeValue o attached rest).map (fun (g, rest) => (some g, rest)) = .ok (g, left) →
        left.length ≤ rest.length := by
    intro o attached h
    cases hv : takeValue o attached rest with
    | error e => simp [hv, Except.map] at h
    | ok p =>
      simp only [hv, Except.map, Except.ok.injEq, Prod.mk.injEq] at h
      exact h.2 ▸ takeValue_length_le hv
  unfold takeOption at h
  grind

/-- The options in the arguments, each at most once. -/
def split (arguments : List String) : Except UsageProblem (List Given) :=
  go [] arguments
where
  /-- The options in the arguments which are left, after those which were given already. -/
  go (given : List Given) : List String → Except UsageProblem (List Given)
    | [] => .ok given.reverse
    | argument :: rest =>
      match _h : takeOption argument rest with
      | .error problem => .error problem
      | .ok (none, _) => .ok given.reverse
      | .ok (some g, left) =>
        if given.any fun earlier => earlier.opt = g.opt then .error (.repeated g.opt)
        else go (g :: given) left
  termination_by arguments => arguments.length
  decreasing_by
    have := takeOption_length_le _h
    simp only [List.length_cons]
    omega

/-! ## Values -/

/-- The model of the name on the command line. -/
def model? : String → Option CardModel
  | "madi" => some .madi
  | "madiface" => some .madiFace
  | "aes" => some .aes
  | "raydat" => some .rayDat
  | "aio" => some .aio
  | "aio-pro" => some .aioPro
  | _ => none

/-- The format of the name on the command line. -/
def format? : String → Option Format
  | "24" => some .fps24
  | "25" => some .fps25
  | "29.97" => some .fps2997
  | "29.97df" => some .fps2997Drop
  | "30" => some .fps30
  | "30df" => some .fps30Drop
  | _ => none

/-- The integer of the text, if 64 bits hold it. -/
def integer? (value : String) : Option Int :=
  Decimal.readSigned? 0x8000000000000000 0x7fffffffffffffff value.toList

/-- The number of the text, if 32 bits hold it. -/
def number? (value : String) : Option Nat :=
  (integer? value).bind fun n => if 0 ≤ n ∧ n < 0x100000000 then some n.toNat else none

/-- The time code of the text. -/
def timeCode? (value : String) : Option TimeCode :=
  (TimeCode.parse value).toOption

/-- The time code of the text, or the one which asks for the real time clock. -/
def outputTimeCode? (value : String) : Option TimeCode :=
  if value = "wallclock" then some .wallClock else timeCode? value

/-- What the options say, with the request for the time code output in its two parts. -/
structure Parsed where
  arguments : Arguments := {}
  timeCodeOut : Option TimeCode := none
  target : Int := Ltc.Request.atOnce
  deriving DecidableEq, Repr, Inhabited

/-- What the options say after one more, if its value is good. -/
def Parsed.take? (p : Parsed) (g : Given) : Option Parsed :=
  match g.opt with
  | .ioType => (model? g.value).map fun m => { p with arguments.settings.model := m }
  | .noTco => some { p with arguments.settings.hasModule := false }
  | .rate => (number? g.value).map fun n => { p with arguments.settings.rate := n }
  | .periodSize => (number? g.value).map fun n => { p with arguments.settings.periodSize := n }
  | .ltcFormat => (format? g.value).map fun f => { p with arguments.settings.format := f }
  | .periods => (number? g.value).map fun n => { p with arguments.settings.periods := n }
  | .realtime => some { p with arguments.realtime := true }
  | .ltcIn =>
    (timeCode? g.value).map fun t => { p with arguments.settings.timeCodeIn := some t }
  | .ltcOut => (outputTimeCode? g.value).map fun t => { p with timeCodeOut := some t }
  | .ltcOutTarget => (integer? g.value).map fun n => { p with target := n }
  | .logLevel =>
    if g.value = "debug" then some { p with arguments.logging := true } else none

/-- What all the options say. -/
def takeAll (p : Parsed) : List Given → Except UsageProblem Parsed
  | [] => .ok p
  | g :: rest =>
    match p.take? g with
    | none => .error (.badValue g.opt g.value)
    | some p => takeAll p rest

/-- The arguments with the request for the time code output put together. -/
def Parsed.result (p : Parsed) : Arguments :=
  { p.arguments with
    settings.request := p.timeCodeOut.map fun timeCode => { timeCode, target := p.target } }

/-- What the program is told. -/
def parse (arguments : List String) : Except UsageProblem Arguments := do
  let given ← split arguments
  let p ← takeAll {} given
  return p.result

end CommandLine

end TimecodeCard
