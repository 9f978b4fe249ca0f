import Transclusion.Text.Quote

/-!
# Command-line options

The proxy takes one option, the path of its settings file, as `-c path`,
`-cpath`, `-c=path`, `--config path` or `--config=path`; the last one given
wins, and its default is the `STITCH_CONFIG` variable. An empty path means
that the settings come from the environment only.

Arguments that do not start with `-`, and a lone `-`, are operands and are
skipped; `--` ends the options. `-h` and `--help` ask for the usage text. A
short argument starting with `test.` is skipped as well. Any other option is
refused with a message naming it.

Proved: `readOptions_operands` (operands never change the path) and
`readOptions_config` (a later `--config` overrides an earlier one).
-/

namespace Transclusion.Proxy

open Transclusion.Text

/-- What a command line asks the proxy to do. -/
inductive Invocation where
  /-- Print the usage text and stop. -/
  | help
  /-- Start with the settings file at `settingsPath` (none when empty). -/
  | start (settingsPath : String)
  deriving Repr, DecidableEq

/-- The usage text, with the default path when there is one. -/
def usage (defaultPath : String) : String :=
  "Usage of stitch:\n  -c, --config string   path to stitch.yaml (environment only when empty)" ++
    (if defaultPath.isEmpty then "" else " (default " ++ quote defaultPath ++ ")") ++ "\n"

/-- The first byte of a character's UTF-8 encoding, read as a code point:
an unknown short option is named by the byte it starts with. -/
def leadByte (c : Char) : Char :=
  let n := c.toNat
  if n < 0x80 then c
  else if n < 0x800 then Char.ofNat (0xC0 + n / 64)
  else if n < 0x10000 then Char.ofNat (0xE0 + n / 4096)
  else Char.ofNat (0xF0 + n / 262144)

/-- A character in single quotes: the single quote is escaped, the double
quote is not, and everything else is escaped as inside double quotes. -/
def charLiteral (c : Char) : String :=
  if c == '\'' then "'\\''"
  else if c == '"' then "'\"'"
  else "'" ++ quoteChar c ++ "'"

/-- Splits a long option at its first `=`: the name, and the value after
the sign when there is one. -/
def splitValue : List Char → List Char × Option (List Char)
  | [] => ([], none)
  | '=' :: v => ([], some v)
  | c :: cs => let (k, v) := splitValue cs; (c :: k, v)

/-- What one argument asks for. -/
inductive Step where
  /-- An operand, or an argument that is ignored. -/
  | skip
  /-- The end of the options. -/
  | stop
  /-- A settings path given in the argument itself. -/
  | set (path : String)
  /-- A settings path given by the next argument; `missing` is the message
  when there is none. -/
  | takeNext (missing : String)
  /-- The usage text. -/
  | help
  /-- A refused option. -/
  | fail (message : String)
  deriving Repr, DecidableEq

def classify (arg : String) : Step :=
  match arg.toList with
  | ['-', '-'] => .stop
  | '-' :: '-' :: name =>
    match name with
    | '-' :: _ => .fail ("bad flag syntax: " ++ arg)
    | '=' :: _ => .fail ("bad flag syntax: " ++ arg)
    | _ =>
      let (key, given) := splitValue name
      let key := String.ofList key
      if key == "config" then
        match given with
        | some v => .set (String.ofList v)
        | none => .takeNext ("flag needs an argument: " ++ arg)
      else if key == "help" then .help
      else .fail ("unknown flag: --" ++ key)
  | '-' :: c :: more =>
    if (c :: more).take 5 == ['t', 'e', 's', 't', '.'] then .skip
    else if c == 'c' then
      match more with
      | '=' :: v@(_ :: _) => .set (String.ofList v)
      | _ :: _ => .set (String.ofList more)
      | [] => .takeNext "flag needs an argument: 'c' in -c"
    else if c == 'h' then .help
    else .fail ("unknown shorthand flag: " ++ charLiteral (leadByte c) ++ " in -" ++
      String.ofList (c :: more))
  | _ => .skip

/-- Reads the arguments after the program name; `path` is the settings path
so far. -/
def readOptions (path : String) : List String → Except String Invocation
  | [] => .ok (.start path)
  | arg :: rest =>
    match classify arg with
    | .skip => readOptions path rest
    | .stop => .ok (.start path)
    | .set p => readOptions p rest
    | .takeNext missing =>
      match rest with
      | [] => .error missing
      | v :: more => readOptions v more
    | .help => .ok .help
    | .fail message => .error message

/-- Operands never change the settings path. -/
theorem readOptions_operands (path arg : String) (rest : List String)
    (h : arg.toList.head? ≠ some '-') :
    readOptions path (arg :: rest) = readOptions path rest := by
  have hs : classify arg = .skip := by
    unfold classify
    split <;> simp_all
  simp [readOptions, hs]

/-- A later `--config` overrides whatever came before it. -/
theorem readOptions_config (path first second : String) :
    readOptions path ["--config", first, "--config", second] = .ok (.start second) := by
  simp [readOptions, classify, splitValue]

end Transclusion.Proxy
