import Kubejob.Executor

/-!
# What `sh -c` reads from the command `exec` sends

`exec` joins `Command ++ Args` with single spaces and sends the text for
`sh -c` to run. What runs is what the shell reads back from that text. Token
recognition (POSIX XCU 2.3) splits the script at blanks, newlines and operators,
and it honours quoting. A simple command's words then become its fields after
expansion and quote removal (XCU 2.6).

The lexer below recognizes tokens as XCU 2.3 lays them out, with three
exceptions. It marks an expansion (a `$` or a backquote, unquoted or in double
quotes) without finding where the expansion ends. It has no here-documents. It
has no aliases, and `sh -c` starts with none defined. `shellWords` reads a
script only when the script is one simple command of literal words. For any
other script it is `none`, and the model says nothing about that script.
-/

namespace Kubejob

namespace Shell

/-- The backslash. -/
def backslash : Char := '\x5c'

/-- The single quote. -/
def singleQuote : Char := '\x27'

/-- The double quote. -/
def doubleQuote : Char := '\x22'

/-- The backquote, which starts a command substitution. -/
def backquote : Char := '\x60'

/-- A character of a word as the lexer keeps it. Quote characters are not
kept, so quote removal only reads the characters back. -/
inductive WordChar where
  /-- A character quoted by a backslash or by quotes. -/
  | quoted (c : Char)
  /-- An unquoted character. -/
  | plain (c : Char)
  /-- The start of an expansion: `$` or a backquote, unquoted or in double
  quotes. -/
  | expansion (c : Char)
  deriving DecidableEq

/-- The character itself, as quote removal leaves it. -/
def WordChar.char : WordChar → Char
  | .quoted c | .plain c | .expansion c => c

/-- The character, when it is unquoted. -/
def WordChar.plain? : WordChar → Option Char
  | .plain c => some c
  | _ => none

/-- A token of XCU 2.3. -/
inductive Token where
  | word (chars : List WordChar)
  | operator (text : List Char)
  | newline
  deriving DecidableEq

/-- The word of a token, if it is one. -/
def Token.word? : Token → Option (List WordChar)
  | .word chars => some chars
  | _ => none

/-- The token the lexer is in the middle of. -/
inductive Pending where
  | idle
  | word (chars : List WordChar)
  | operator (text : List Char)
  deriving DecidableEq

/-- The quoting in force at the next character. -/
inductive Quoting where
  | unquoted
  | single
  | double
  /-- After an unquoted backslash. -/
  | escape
  /-- After a backslash inside double quotes. -/
  | doubleEscape
  /-- Inside a comment, up to the next newline. -/
  | comment
  deriving DecidableEq

/-- The lexer's state: the tokens delimited so far, in order, the pending token
and the quoting. -/
structure Lexer where
  tokens : List Token
  pending : Pending
  quoting : Quoting
  deriving DecidableEq

/-- The operators of the shell grammar (XCU 2.10.1), newline apart. -/
def operators : List (List Char) :=
  ["&&", "||", ";;", "<<", ">>", "<&", ">&", "<>", "<<-", ">|",
    "&", "|", ";", "<", ">", "(", ")"].map String.data

/-- The characters that start an operator. -/
def operatorStarts : List Char := ['&', '|', ';', '<', '>', '(', ')']

/-- What an unquoted character does when no operator is pending. -/
inductive CharClass where
  | quote
  | expansion
  | operator
  | newline
  | blank
  | ordinary
  deriving DecidableEq

/-- The class of an unquoted character. -/
def charClass (c : Char) : CharClass :=
  if c = backslash ∨ c = singleQuote ∨ c = doubleQuote then .quote
  else if c = '$' ∨ c = backquote then .expansion
  else if c ∈ operatorStarts then .operator
  else if c = '\n' then .newline
  else if c = ' ' ∨ c = '\t' then .blank
  else .ordinary

namespace Lexer

/-- The start of the script. -/
def start : Lexer := ⟨[], .idle, .unquoted⟩

/-- Delimit the pending token, if there is one. -/
def delimit (lexer : Lexer) : Lexer :=
  match lexer.pending with
  | .idle => lexer
  | .word chars => { lexer with tokens := lexer.tokens ++ [.word chars], pending := .idle }
  | .operator text => { lexer with tokens := lexer.tokens ++ [.operator text], pending := .idle }

/-- Make sure a word is pending: a quote starts a word even when nothing
follows it in the word. -/
def openWord (lexer : Lexer) : Lexer :=
  match lexer.pending with
  | .word _ => lexer
  | _ => { lexer with pending := .word [] }

/-- Add a character to the pending word, starting a word if none is pending. -/
def push (lexer : Lexer) (c : WordChar) : Lexer :=
  match lexer.pending with
  | .word chars => { lexer with pending := .word (chars ++ [c]) }
  | _ => { lexer with pending := .word [c] }

/-- An unquoted character when no operator is pending (rules 4 to 10 of
XCU 2.3). A backslash quotes the next character; a backslash and a newline
together are removed, so the lexer keeps its pending token. -/
def unquotedChar (lexer : Lexer) (c : Char) : Lexer :=
  match charClass c with
  | .quote =>
      if c = backslash then { lexer with quoting := .escape }
      else { lexer.openWord with quoting := if c = singleQuote then .single else .double }
  | .expansion => lexer.push (.expansion c)
  | .operator => { lexer.delimit with pending := .operator [c] }
  | .newline => { lexer.delimit with tokens := lexer.delimit.tokens ++ [.newline] }
  | .blank => lexer.delimit
  | .ordinary =>
      match lexer.pending with
      | .word chars => { lexer with pending := .word (chars ++ [.plain c]) }
      | _ => if c = '#' then { lexer with quoting := .comment }
          else { lexer with pending := .word [.plain c] }

/-- Read one character of the script. -/
def feed (lexer : Lexer) (c : Char) : Lexer :=
  match lexer.quoting with
  | .single =>
      if c = singleQuote then { lexer with quoting := .unquoted } else lexer.push (.quoted c)
  | .double =>
      if c = doubleQuote then { lexer with quoting := .unquoted }
      else if c = backslash then { lexer with quoting := .doubleEscape }
      else if c = '$' ∨ c = backquote then lexer.push (.expansion c)
      else lexer.push (.quoted c)
  | .escape =>
      if c = '\n' then { lexer with quoting := .unquoted }
      else { lexer.push (.quoted c) with quoting := .unquoted }
  | .doubleEscape =>
      if c = '\n' then { lexer with quoting := .double }
      else if c = '$' ∨ c = backquote ∨ c = doubleQuote ∨ c = backslash then
        { lexer.push (.quoted c) with quoting := .double }
      else { (lexer.push (.quoted backslash)).push (.quoted c) with quoting := .double }
  | .comment =>
      if c = '\n' then { lexer with tokens := lexer.tokens ++ [.newline], quoting := .unquoted }
      else lexer
  | .unquoted =>
      match lexer.pending with
      | .operator text =>
          if text ++ [c] ∈ operators then { lexer with pending := .operator (text ++ [c]) }
          else lexer.delimit.unquotedChar c
      | _ => lexer.unquotedChar c

/-- The end of the script delimits the pending token. A quote or a backslash
still open there is a syntax error, or left to the shell: no tokens. -/
def finish (lexer : Lexer) : Option (List Token) :=
  match lexer.quoting with
  | .unquoted | .comment => some lexer.delimit.tokens
  | _ => none

end Lexer

/-- The tokens of a script. -/
def tokenize (script : String) : Option (List Token) :=
  (script.data.foldl Lexer.feed Lexer.start).finish

/-- The reserved words of XCU 2.4, with those XCU lets a shell reserve as well
and those bash reserves besides. -/
def reservedWords : List String :=
  ["!", "\x7b", "\x7d", "case", "do", "done", "elif", "else", "esac", "fi", "for", "if", "in",
    "then", "until", "while", "[[", "]]", "function", "select", "time", "coproc"]

/-- A name (XCU 3.216): a letter or an underscore, then letters, digits and
underscores. -/
def isName : List Char → Bool
  | [] => false
  | first :: rest => (first.isAlpha || first == '_') && rest.all fun c => c.isAlphanum || c == '_'

/-- A word is a reserved word when none of its characters is quoted. -/
def isReserved (word : List WordChar) : Bool :=
  match word.mapM WordChar.plain? with
  | some chars => reservedWords.contains (String.mk chars)
  | none => false

/-- The characters of a word before its first unquoted `=`, if it has one. -/
def beforeEquals : List WordChar → Option (List WordChar)
  | [] => none
  | .plain '=' :: _ => some []
  | c :: rest => (beforeEquals rest).map (c :: ·)

/-- A word in the command's first place is an assignment when the characters
before its first unquoted `=` form a name (XCU 2.10.2, rule 7). -/
def isAssignment (word : List WordChar) : Bool :=
  match (beforeEquals word).bind (·.mapM WordChar.plain?) with
  | some name => isName name
  | none => false

/-- Whether a word is changed by expansion (XCU 2.6): it holds a parameter,
command or arithmetic expansion or an unquoted pattern character, or it starts
with an unquoted tilde. -/
def expands (word : List WordChar) : Bool :=
  word.head? == some (.plain '~') ||
    word.any fun c => match c with
      | .expansion _ => true
      | .plain c => c == '*' || c == '?' || c == '['
      | .quoted _ => false

/-- A word's field after quote removal. -/
def fieldText (word : List WordChar) : String :=
  String.mk (word.map WordChar.char)

/-- The fields of the simple command that `tokens` form: a non-empty run of
words whose first word is neither a reserved word nor an assignment and none
of which expands. Any other tokens give `none`. -/
def simpleCommandWords (tokens : List Token) : Option (List String) :=
  match tokens.mapM Token.word? with
  | some (first :: rest) =>
      if isReserved first || isAssignment first || (first :: rest).any expands then none
      else some ((first :: rest).map fieldText)
  | _ => none

/-- The fields of the one simple command `sh -c script` runs, when the script
is one simple command of literal words. -/
def shellWords (script : String) : Option (List String) :=
  (tokenize script).bind simpleCommandWords

/-- A character that means itself anywhere in an unquoted word: an ASCII
letter or digit, or one of `-_./:,+@%=`. -/
def PlainChar (c : Char) : Prop := c.isAlphanum ∨ c ∈ "-_./:,+@%=".data

instance : DecidablePred PlainChar := fun _ => inferInstanceAs (Decidable (_ ∨ _))

/-- The characters that mean more than themselves somewhere in an unquoted
word. -/
def specialChars : List Char :=
  [backslash, singleQuote, doubleQuote, '$', backquote, '\n', ' ', '\t', '#', '*', '?', '[', '~'] ++
    operatorStarts

theorem not_plainChar_of_mem_specialChars : ∀ c ∈ specialChars, ¬ PlainChar c := by
  decide

theorem not_mem_specialChars {c : Char} (plain : PlainChar c) : c ∉ specialChars :=
  fun special => not_plainChar_of_mem_specialChars c special plain

theorem charClass_of_plainChar {c : Char} (plain : PlainChar c) : charClass c = .ordinary := by
  have other := not_mem_specialChars plain
  simp_all [charClass, specialChars, operatorStarts]

theorem ne_of_plainChar {c : Char} (plain : PlainChar c) :
    c ≠ '#' ∧ c ≠ '~' ∧ c ≠ '*' ∧ c ≠ '?' ∧ c ≠ '[' := by
  have other := not_mem_specialChars plain
  simp_all [specialChars]

namespace Lexer

variable {tokens : List Token} {chars : List WordChar} {c : Char}

theorem feed_plain_idle (plain : PlainChar c) :
    feed ⟨tokens, .idle, .unquoted⟩ c = ⟨tokens, .word [.plain c], .unquoted⟩ := by
  simp [feed, unquotedChar, charClass_of_plainChar plain, (ne_of_plainChar plain).1]

theorem feed_plain_word (plain : PlainChar c) :
    feed ⟨tokens, .word chars, .unquoted⟩ c = ⟨tokens, .word (chars ++ [.plain c]), .unquoted⟩ := by
  simp [feed, unquotedChar, charClass_of_plainChar plain]

theorem feed_space_word :
    feed ⟨tokens, .word chars, .unquoted⟩ ' ' = ⟨tokens ++ [.word chars], .idle, .unquoted⟩ :=
  rfl

/-- Plain characters extend the pending word. -/
theorem foldl_feed_plain (word : List Char) (plain : ∀ c ∈ word, PlainChar c) :
    word.foldl feed ⟨tokens, .word chars, .unquoted⟩ =
      ⟨tokens, .word (chars ++ word.map .plain), .unquoted⟩ := by
  induction word generalizing chars with
  | nil => simp
  | cons c word ih =>
      rw [List.foldl_cons, feed_plain_word (plain c (List.mem_cons_self _ _)),
        ih fun x member => plain x (List.mem_cons_of_mem _ member)]
      simp

/-- A word of plain characters, read between tokens, is pending as a word. -/
theorem foldl_feed_word (word : List Char) (nonempty : word ≠ [])
    (plain : ∀ c ∈ word, PlainChar c) :
    word.foldl feed ⟨tokens, .idle, .unquoted⟩ = ⟨tokens, .word (word.map .plain), .unquoted⟩ := by
  cases word with
  | nil => contradiction
  | cons c word =>
      rw [List.foldl_cons, feed_plain_idle (plain c (List.mem_cons_self _ _)),
        foldl_feed_plain word fun x member => plain x (List.mem_cons_of_mem _ member)]
      rfl

/-- Words of plain characters, each after a space, are delimited one by one. -/
theorem finish_foldl_feed_words (words : List (List Char))
    (plain : ∀ word ∈ words, word ≠ [] ∧ ∀ c ∈ word, PlainChar c) :
    ((words.map (' ' :: ·)).flatten.foldl feed ⟨tokens, .word chars, .unquoted⟩).finish =
      some (tokens ++ .word chars :: words.map fun word => .word (word.map .plain)) := by
  induction words generalizing tokens chars with
  | nil => rfl
  | cons word words ih =>
      obtain ⟨nonempty, wordPlain⟩ := plain word (List.mem_cons_self _ _)
      rw [List.map_cons, List.flatten_cons, List.foldl_append, List.foldl_cons, feed_space_word,
        foldl_feed_word word nonempty wordPlain,
        ih fun other member => plain other (List.mem_cons_of_mem _ member)]
      simp

end Lexer

/-- Non-empty words of plain characters, joined with spaces, are read back as
those words. -/
theorem tokenize_intercalate (words : List String)
    (plain : ∀ word ∈ words, word ≠ "" ∧ ∀ c ∈ word.data, PlainChar c) :
    tokenize (String.intercalate " " words) =
      some (words.map fun word => .word (word.data.map .plain)) := by
  cases words with
  | nil => rfl
  | cons first rest =>
      have charsPlain : ∀ word ∈ (first :: rest).map String.data,
          word ≠ [] ∧ ∀ c ∈ word, PlainChar c := List.forall_mem_map.mpr fun word member =>
        ⟨fun empty => (plain word member).1 (String.ext empty), (plain word member).2⟩
      obtain ⟨firstPlain, restPlain⟩ := List.forall_mem_cons.mp charsPlain
      rw [tokenize, intercalate_data, List.map_cons, intercalate_cons, List.foldl_append,
        Lexer.start, Lexer.foldl_feed_word _ firstPlain.1 firstPlain.2]
      simpa [Function.comp_def] using Lexer.finish_foldl_feed_words _ restPlain

theorem mapM_word? (words : List (List WordChar)) :
    (words.map Token.word).mapM Token.word? = some words := by
  induction words with
  | nil => rfl
  | cons word words ih => rw [List.map_cons, List.mapM_cons, ih]; rfl

theorem mapM_plain? (chars : List Char) :
    (chars.map WordChar.plain).mapM WordChar.plain? = some chars := by
  induction chars with
  | nil => rfl
  | cons c chars ih => rw [List.map_cons, List.mapM_cons, ih]; rfl

theorem beforeEquals_plain (chars : List Char) (noEquals : '=' ∉ chars) :
    beforeEquals (chars.map .plain) = none := by
  induction chars with
  | nil => rfl
  | cons c chars ih =>
      obtain ⟨other, rest⟩ := not_or.mp (List.mem_cons.not.mp noEquals)
      simp [beforeEquals, Ne.symm other, ih rest]

theorem expands_plain (chars : List Char) (plain : ∀ c ∈ chars, PlainChar c) :
    expands (chars.map .plain) = false := by
  have ne := fun c member => ne_of_plainChar (plain c member)
  cases chars with
  | nil => rfl
  | cons c chars => simp_all [expands]

theorem fieldText_plain (word : String) : fieldText (word.data.map .plain) = word := by
  simp [fieldText, Function.comp_def, WordChar.char]

/-- Words of plain characters form a simple command whose fields are those
words, when the first is neither a reserved word nor an assignment. -/
theorem simpleCommandWords_plain (first : String) (rest : List String)
    (plain : ∀ word ∈ first :: rest, ∀ c ∈ word.data, PlainChar c)
    (notReserved : first ∉ reservedWords) (noEquals : '=' ∉ first.data) :
    simpleCommandWords ((first :: rest).map fun word => .word (word.data.map .plain)) =
      some (first :: rest) := by
  have reserved : isReserved (first.data.map .plain) = false := by
    rw [isReserved, mapM_plain?]
    simpa using notReserved
  have assignment : isAssignment (first.data.map .plain) = false := by
    simp [isAssignment, beforeEquals_plain _ noEquals]
  have literal : ∀ word ∈ first :: rest, expands (word.data.map .plain) = false :=
    fun word member => expands_plain _ (plain word member)
  have tokens : (first :: rest).map (fun word => Token.word (word.data.map .plain)) =
      ((first.data.map .plain) :: rest.map fun word => word.data.map .plain).map Token.word := by
    simp [Function.comp_def]
  rw [tokens, simpleCommandWords, mapM_word?]
  simp_all [fieldText_plain, Function.comp_def]

/-- The shell runs what `Exec` sends as the container's own command when the
words of `Command ++ Args` are non-empty and of plain characters and the first
is neither a reserved word nor has an `=`: `sh -c` then reads the joined words
back as one simple command of those words. -/
theorem exec_runs_plain_argv (j : Job) (handler : List JobExecutor → Option GoError)
    (pod : Pod) (stream : List String → Option GoError) (e : JobExecutor)
    (handed : e ∈ handedExecutors (j.prepareExecution handler).1 pod)
    (first : String) (rest : List String)
    (argv : e.container.command ++ e.container.args = first :: rest)
    (plain : ∀ word ∈ first :: rest, word ≠ "" ∧ ∀ c ∈ word.data, PlainChar c)
    (notReserved : first ∉ reservedWords) (noEquals : '=' ∉ first.data) :
    ∃ script, (e.exec stream).calls.head?.map execRequestCommand = some ["sh", "-c", script] ∧
      shellWords script = some (e.container.command ++ e.container.args) := by
  obtain ⟨built, member, rfl⟩ := List.mem_map.mp handed
  obtain ⟨container, -, rfl⟩ := List.mem_map.mp member
  change container.command ++ container.args = first :: rest at argv
  refine ⟨String.intercalate " " (container.command ++ container.args), rfl, ?_⟩
  change shellWords _ = some (container.command ++ container.args)
  rw [argv, shellWords, tokenize_intercalate _ plain]
  exact simpleCommandWords_plain first rest (fun word member => (plain word member).2)
    notReserved noEquals

theorem exec_runs_plain_argv_catMissingFile :
    { newExecutor catMissingFileJob ⟨"test", "golang:1.17-stretch", ["cat", "fuga"], []⟩ with
        pod := some catMissingFileRunningPod } ∈
      handedExecutors (catMissingFileJob.prepareExecution fun _ => none).1
        catMissingFileRunningPod ∧
    (∀ word ∈ ["cat", "fuga"], word ≠ "" ∧ ∀ c ∈ word.data, PlainChar c) ∧
    "cat" ∉ reservedWords ∧ '=' ∉ "cat".data ∧
    ∃ script, (JobExecutor.exec { newExecutor catMissingFileJob
        ⟨"test", "golang:1.17-stretch", ["cat", "fuga"], []⟩ with
          pod := some catMissingFileRunningPod } catMissingFileStream).calls.head?.map
            execRequestCommand = some ["sh", "-c", script] ∧
      shellWords script = some ["cat", "fuga"] :=
  ⟨by decide, by decide, by decide, by decide,
    exec_runs_plain_argv catMissingFileJob (fun _ => none) catMissingFileRunningPod
      catMissingFileStream _
      (by decide) "cat" ["fuga"] rfl (by decide) (by decide) (by decide)⟩

/-- The script of the repository's test of `RunWithExecutionHandler`, as its
container's one argument: two lines, the second indented. -/
def setEuEchoScript : String :=
  "set -eu\n                                     echo $TEST"

/-- The job of that test: one container running `sh -c` on the script. -/
def setEuEchoJob : Job where
  job := {
    name := "kubejob-test"
    template := {
      labels := none
      spec := ⟨[], [⟨"test", "golang:1.17-stretch", ["sh", "-c"], [setEuEchoScript]⟩], ""⟩ } }
  logger := none
  disabledInitContainerLog := false
  disabledInitCommandLog := false
  disabledContainerLog := false
  disabledCommandLog := false
  podRunningCallback := none

/-- `Exec` on the executor of `setEuEchoJob` joins `sh`, `-c` and the script with
spaces. The shell reads the result as two commands: first `sh -c set -eu`, a
shell whose script is `set` and whose `$0` is `-eu`, then `echo $TEST`. The
container's own command is one shell running the two-line script. -/
theorem exec_reads_script_argument_as_commands :
    ∃ e ∈ (setEuEchoJob.prepareExecution fun _ => none).1,
      e.container.command ++ e.container.args = ["sh", "-c", setEuEchoScript] ∧
      (e.exec fun _ => none).calls.head?.map execRequestCommand =
        some ["sh", "-c", "sh -c " ++ setEuEchoScript] ∧
      tokenize ("sh -c " ++ setEuEchoScript) = some
        (["sh", "-c", "set", "-eu"].map (fun word => .word (word.data.map .plain)) ++
          .newline :: [.word ("echo".data.map .plain),
            .word (.expansion '$' :: "TEST".data.map .plain)]) ∧
      simpleCommandWords (["sh", "-c", "set", "-eu"].map fun word => .word (word.data.map .plain)) =
        some ["sh", "-c", "set", "-eu"] :=
  ⟨_, List.mem_singleton_self _, rfl, rfl, by decide, by decide⟩

end Shell

end Kubejob
