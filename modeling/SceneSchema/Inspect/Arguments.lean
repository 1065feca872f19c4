/-!
# The arguments of the inspection command

Words that start with a dash are options, up to a lone `--`; all others, and all words after it,
name classes. An option that takes a value has it after an equals sign, or, in the short form,
directly behind the letter, or in the next word. The next word is not taken if it looks like an
option. An option may be given again, and the last one counts.

`Arguments.parse` refuses unknown options, values for options that take none, and options that lack
their value. It stops at a request for help or for the version, whatever follows.
-/

namespace SceneSchema.Inspect

/-- What the command was asked to do. -/
structure Arguments where
  /-- The classes to check; none means all. -/
  classes : List String := []
  /-- A list of directories to search first. -/
  dirs : Option String := none
  /-- Check modules for declarations only. -/
  proxy : Bool := false
  /-- Print the attribute table of every valid module. -/
  describe : Bool := false
  /-- Which messages to log. -/
  logLevel : String := "warn"
  deriving DecidableEq, Repr

/-- What a list of words asks for. -/
inductive Request where
  | run (arguments : Arguments)
  | help
  | version
  | refused
  deriving DecidableEq, Repr

namespace Arguments

/-- The options. -/
inductive Switch where
  | dirs
  | proxy
  | describe
  | logLevel
  | help
  | version
  deriving DecidableEq, Repr

/-- The option of a long name. -/
def longOption? : String → Option Switch
  | "dso-path" | "dso_path" => some .dirs
  | "proxy" => some .proxy
  | "describe" => some .describe
  | "log-level" => some .logLevel
  | "help" => some .help
  | "version" => some .version
  | _ => none

/-- The option of a letter. -/
def shortOption? : Char → Option Switch
  | 'd' => some .dirs
  | 'h' => some .help
  | 'V' => some .version
  | _ => none

/-- Whether the option takes a value. -/
def Switch.takesValue : Switch → Bool
  | .dirs | .logLevel => true
  | .proxy | .describe | .help | .version => false

/-- The arguments with an option's value. -/
def withValue (a : Arguments) (o : Switch) (value : String) : Arguments :=
  match o with
  | .dirs => { a with dirs := some value }
  | .logLevel => { a with logLevel := value }
  | .proxy | .describe | .help | .version => a

/-- What becomes of the arguments at one word. -/
inductive Next where
  /-- Go on. -/
  | goOn (arguments : Arguments)
  /-- Go on; the value of the option is still to come. -/
  | awaiting (option : Switch)
  /-- Stop with the request. -/
  | stop (request : Request)

/-- What an option without a value asks for. -/
def flag (a : Arguments) : Switch → Next
  | .proxy => .goOn { a with proxy := true }
  | .describe => .goOn { a with describe := true }
  | .help => .stop .help
  | .version => .stop .version
  | .dirs => .awaiting .dirs
  | .logLevel => .awaiting .logLevel

/-- A word that starts with two dashes, which are left out here. -/
def longWord (a : Arguments) (word : List Char) : Next :=
  let name := word.takeWhile (· ≠ '=')
  let behind := word.drop name.length
  match longOption? (String.ofList name), behind with
  | none, _ => .stop .refused
  | some o, [] => a.flag o
  | some o, _ :: value =>
      if o.takesValue then .goOn (a.withValue o (String.ofList value)) else .stop .refused

/-- A word that starts with one dash, which is left out here: the first letter decides, because it
takes the rest of the word as its value, stops, or is unknown. -/
def shortWord (a : Arguments) (word : List Char) : Next :=
  match word with
  | [] => .goOn a
  | letter :: rest =>
      match shortOption? letter with
      | none => .stop .refused
      | some o =>
          if o.takesValue then
            match rest with
            | [] => .awaiting o
            | '=' :: value => .goOn (a.withValue o (String.ofList value))
            | value => .goOn (a.withValue o (String.ofList value))
          else a.flag o

/-- The arguments with one more class. -/
def withClass (a : Arguments) (name : String) : Arguments :=
  { a with classes := a.classes ++ [name] }

/-- Read one word; `waiting` is an option whose value is still to come. A word that looks like an
option never is that value, so the option then lacks it. -/
def readWord (a : Arguments) (waiting : Option Switch) (word : List Char) : Next :=
  let option (next : Next) : Next :=
    if waiting.isSome then .stop .refused else next
  match word with
  | '-' :: '-' :: chars => option (a.longWord chars)
  | '-' :: c :: chars => option (a.shortWord (c :: chars))
  | _ =>
      match waiting with
      | some o => .goOn (a.withValue o (String.ofList word))
      | none => .goOn (a.withClass (String.ofList word))

/-- Read the words from left to right. -/
def parseFrom (a : Arguments) (waiting : Option Switch) : List String → Request
  | [] => if waiting.isSome then .refused else .run a
  | word :: rest =>
      if word = "--" then
        if waiting.isSome then .refused else .run (rest.foldl withClass a)
      else
        match a.readWord waiting word.toList with
        | .goOn a => parseFrom a none rest
        | .awaiting o => parseFrom a (some o) rest
        | .stop request => request

/-- What the words ask for. -/
def parse (words : List String) : Request := parseFrom {} none words

/-- The last of several lists of directories counts. -/
example : parse ["-d", "a", "--dso_path=b", "Lamp"] =
    .run { classes := ["Lamp"], dirs := some "b" } := by decide +kernel

/-- An option's value is not taken from a word that looks like an option. -/
example : parse ["-d", "--proxy"] = .refused := by decide +kernel

end Arguments

end SceneSchema.Inspect
