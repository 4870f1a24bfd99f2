import HostPreflight.Machine.Shell.Token

/-!
# Reading commands of the shell

Takes the next command off a script.  Words are cut into pieces where they are
read; what ends a word and what a quote or a brace means in it depends on its
setting.

## Main definitions

* `Setting` — where the pieces of a word stand.
* `pieces` — the pieces of a word.
* `readToken` — the next token.
* `list` — commands up to what closes them.
* `Input.nextCommand` — the next command of a script.
-/

namespace HostPreflight.Machine.Shell

/-- Where the pieces of a word stand. -/
inductive Setting where
  | word
  /-- The delimiter of a text in the script. -/
  | delimiter
  /-- Quotes in such a delimiter. -/
  | delimiterQuotes
  /-- Braces outside of quotes. -/
  | braces
  /-- Quotes, which braces outside of quotes may surround. -/
  | quotes (isBraced : Bool)
  /-- Braces between quotes. -/
  | quotedBraces (inDocument : Bool)
  /-- Quotes within braces between quotes. -/
  | innerQuotes
  /-- A line of a text in the script. -/
  | document
  /-- An arithmetic expression with open parentheses. -/
  | expression (depth : Nat)
  deriving DecidableEq

namespace Setting

/-- Whether what stands there is quoted. -/
def isQuoted : Setting → Bool
  | .word | .delimiter | .braces => false
  | _ => true

/-- Whether braces surround what stands there. -/
def isBraced : Setting → Bool
  | .braces | .quotedBraces _ | .innerQuotes => true
  | .quotes isBraced => isBraced
  | _ => false

/-- The setting of the word within braces. -/
def inBraces : Setting → Setting
  | .word | .delimiter | .braces => .braces
  | .document => .quotedBraces true
  | .quotedBraces inDocument => .quotedBraces inDocument
  | _ => .quotedBraces false

/-- Whether a backslash stands for itself in front of a character. -/
def keepsBackslash (setting : Setting) (c : Char) : Bool :=
  setting.isQuoted && c != '\\' && c != '\x60' && c != '$'
    && (c != '"' || setting == .document) && (c != '\x7d' || !setting.isBraced)

/-- What is missing when a script ends there, or a text in the script. -/
def missing (setting : Setting) (inDocument : Bool) : Option String :=
  match setting with
  | .word | .delimiter | .document => none
  | .braces => some "Missing '\x7d'"
  | .expression _ => some "Missing '))'"
  | _ => some (if inDocument then "Missing '\x7d'" else "Unterminated quoted string")

end Setting

/-- What ends a word unless it is quoted. -/
def endsWord (c : Char) : Bool :=
  isSeparator c || c == ';' || c == '&' || c == '|' || c == '<' || c == '>' || c == '(' || c == ')'

/-- The parameters whose names are single signs. -/
def isSign (c : Char) : Bool :=
  c == '!' || c == '#' || c == '$' || c == '*' || c == '-' || c == '?' || c == '@'

/-- The parameters that need no braces and are not names. -/
def isSpecial (c : Char) : Bool := isSign c || isNumeral c

/-- The rest after lines that are a delimiter. -/
def afterDelimiter (delimiter : List Char) (text : List Char) : Option (List Char) :=
  if delimiter.isPrefixOf text then
    let rest := text.drop delimiter.length
    if rest.isEmpty || rest.head? = some '\n' then some rest else none
  else none

/-- Leaves out tabs at the start of a line, and takes the delimiter if it stands there. -/
def takesDelimiter (announcement : Announcement) : Parse Bool := do
  if announcement.stripped then
    modify fun input => { input with rest := input.rest.dropWhile (· == '\t') }
  match afterDelimiter announcement.delimiter (← get).rest with
  | some rest =>
    modify fun input => { input with rest }
    let _ ← getChar
    return true
  | none => return (← get).rest.isEmpty

/-- Whether a text in the script ends after a character, which is the case at the end
of the line before its delimiter. -/
def endsDocument (c : Char) : Parse Bool := do
  match c, (← get).within with
  | '\n', some announcement => takesDelimiter announcement
  | _, _ => return false

/-- The text up to an apostrophe, which is left out. -/
def apostrophized : (fuel : Nat) → Parse (List Char)
  | 0 => exhausted
  | fuel + 1 => do
    let missing : String :=
      if (← get).within.isSome then "Missing '\x7d'" else "Unterminated quoted string"
    match ← getChar with
    | none => complain missing.toList
    | some '\x27' => return []
    | some c =>
      if ← endsDocument c then complain missing.toList
      else return c :: (← apostrophized fuel)

/-- The text up to a backquote, which is left out.  Some backslashes are taken off. -/
def backquoted (setting : Setting) : (fuel : Nat) → Parse (List Char)
  | 0 => exhausted
  | fuel + 1 => do
    match ← getJoined with
    | none => complain "EOF in backquote substitution".toList
    | some '\x60' => return []
    | some '\\' =>
      match ← getChar with
      | none => complain "EOF in backquote substitution".toList
      | some c =>
        let rest ← backquoted setting fuel
        if c == '\\' || c == '\x60' || c == '$' || (setting.isQuoted && c == '"') then
          return c :: rest
        else return '\\' :: c :: rest
    | some c => return c :: (← backquoted setting fuel)

/-- The lines of a text that is taken as it is. -/
def exactLines (announcement : Announcement) : (fuel : Nat) → Parse (List Char)
  | 0 => return []
  | fuel + 1 => do
    if ← takesDelimiter announcement then return []
    else
      let line := (← get).rest.takeWhile (· != '\n')
      modify fun input => { input with rest := input.rest.drop line.length }
      match ← getChar with
      | none => return line
      | some _ => return line ++ '\n' :: (← exactLines announcement fuel)

/-- The word of an operator with one character, or with two if the same follows. -/
def doubled (c : Char) (single double : String) : Parse Token := do
  if ← accept c then return .operator double else return .operator single

/-- The sign of a redirection of which the first character has been taken. -/
def redirectionSign (c : Char) : Parse String := do
  if c == '>' then
    if ← accept '>' then return ">>"
    else if ← accept '|' then return ">|"
    else if ← accept '&' then return ">&"
    else return ">"
  else if ← accept '<' then
    if ← accept '-' then return "<<-" else return "<<"
  else if ← accept '&' then return "<&"
  else if ← accept '>' then return "<>"
  else return "<"

/-- What follows the name of a parameter in braces. -/
inductive Operator where
  | close
  | fallback (operator : Char) (evenIfEmpty : Bool)
  | trim (fromStart longest : Bool)
  | malformed
  deriving DecidableEq

/-- Does not count a line feed that stands where the braces of a parameter cannot have
one. -/
def forgetLine (c : Char) : Parse Unit :=
  modify fun input => if c == '\n' then { input with line := input.line - 1 } else input

/-- Reads the operator after the name of a parameter, given its first character. -/
def readOperator (c : Option Char) : Parse Operator := do
  let fallback (c : Char) (evenIfEmpty : Bool) : Parse Operator := do
    if c == '-' || c == '+' || c == '?' || c == '=' then return .fallback c evenIfEmpty
    else
      forgetLine c
      return .malformed
  match c with
  | some '\x7d' => return .close
  | some ':' =>
    match ← getJoined with
    | some c => fallback c true
    | none => return .malformed
  | some c =>
    if c == '%' || c == '#' then return .trim (c == '#') (← accept c)
    else fallback c false
  | none => return .malformed

/-- The name of a parameter in braces, whether its length is meant, and the
character after it. -/
structure BracedName where
  name : List Char
  isLength : Bool
  after : Option Char

/-- The rest of a name or number after its first character. -/
def nameFrom (c : Char) (fuel : Nat) : Parse (List Char) := do
  if isNameStart c then return c :: (← takeRun isNameChar fuel)
  else return c :: (← takeRun isNumeral fuel)

/-- Reads the name of a parameter in braces; none if there is no name. -/
def bracedName (fuel : Nat) : Parse (Option BracedName) := do
  match ← getJoined with
  | none => return none
  | some c =>
    if isNameStart c || isNumeral c then
      let name ← nameFrom c fuel
      return some ⟨name, false, ← getJoined⟩
    else if c == '\x7d' then
      modify fun input => { input with rest := '\x7d' :: input.rest }
      return none
    else if c == '#' then
      match ← peekJoined with
      | none => return none
      | some d =>
        if isNameStart d || isNumeral d then
          let _ ← getJoined
          let name ← nameFrom d fuel
          return some ⟨name, true, ← getJoined⟩
        else
          let _ ← getJoined
          if d != '\x7d' && (← peekJoined) == some '\x7d' then
            if isSpecial d then return some ⟨[d], true, ← getJoined⟩
            else
              forgetLine d
              return none
          else return some ⟨['#'], false, some d⟩
    else if isSpecial c then return some ⟨[c], false, ← getJoined⟩
    else
      forgetLine c
      return none

/-- Notes the text that a redirection announces. -/
def announce (stripped : Bool) : Parse Nat := do
  let input ← get
  let number := input.nextDocument
  let announcement : Announcement :=
    ⟨number, wordText input.word, stripped, input.word.any Piece.isQuotation⟩
  set { input with
    nextDocument := number + 1
    announced := input.announced ++ [announcement] }
  return number

/-- The redirection that a sign and the word after it make. -/
def redirectionOf (descriptor : Nat) (sign : String) : Parse Redirection := do
  let word := (← get).word
  match sign with
  | ">" => return .file descriptor .write word
  | ">|" => return .file descriptor .force word
  | ">>" => return .file descriptor .append word
  | "<" => return .file descriptor .read word
  | "<>" => return .file descriptor .both word
  | "<<" => return .document descriptor (← announce false)
  | "<<-" => return .document descriptor (← announce true)
  | _ => return .duplicate descriptor word

/-- A command with redirections, if there are any.  Those of a subshell are replaced. -/
def withRedirections (line : Nat) (body : Command) (redirections : List Redirection) : Command :=
  match redirections, body with
  | [], body => body
  | redirections, .subshell line body _ => .subshell line body redirections
  | redirections, body => .redirected line body redirections

/-- One command after another. -/
def inSequence : Command → Command → Command
  | .nothing, second => second
  | first, .nothing => first
  | first, second => .sequence first second

/-- The names of functions must not be those of the commands that steer a script. -/
def reservedNames : List String :=
  [".", ":", "break", "continue", "eval", "exec", "exit", "export", "local", "readonly", "return",
    "set", "shift", "times", "trap", "unset"]

mutual

/-- The pieces of a word. -/
def pieces : (fuel : Nat) → Setting → Parse Word
  | 0, _ => exhausted
  | fuel + 1, setting => do
    let finish : Parse Word := do
      match setting.missing (← get).within.isSome with
      | some text => complain text.toList
      | none => return []
    match ← peekJoined with
    | none => finish
    | some c =>
      if (setting = .word || setting = .delimiter) && endsWord c then return []
      else
        let _ ← getJoined
        let ended ← if setting = .document then pure false else endsDocument c
        if ended then finish
        else match c, setting with
        | '\\', _ =>
          match ← getChar with
          | none => return [.text ['\\'] true]
          | some d =>
            let rest ← pieces fuel setting
            if setting.keepsBackslash d then
              return consText '\\' true (consText d true rest)
            else return .text [d] true :: rest
        | '\x27', .word | '\x27', .delimiter | '\x27', .braces =>
          let text ← apostrophized fuel
          return .anchor :: .text text true :: (← pieces fuel setting)
        | '"', .quotes _ | '"', .innerQuotes | '"', .delimiterQuotes => return []
        | '"', .quotedBraces _ =>
          let inner ← pieces fuel .innerQuotes
          return .anchor :: inner ++ .anchor :: (← pieces fuel setting)
        | '"', .delimiter =>
          let inner ← pieces fuel .delimiterQuotes
          return .anchor :: inner ++ (← pieces fuel setting)
        | '"', .word | '"', .braces =>
          let inner ← pieces fuel (.quotes setting.isBraced)
          return quotation inner ++ (← pieces fuel setting)
        | '$', .delimiter | '$', .delimiterQuotes =>
          return consText '$' setting.isQuoted (← pieces fuel setting)
        | '\x60', .delimiter | '\x60', .delimiterQuotes =>
          return consText '\x60' setting.isQuoted (← pieces fuel setting)
        | '$', _ =>
          let first ← dollar fuel setting
          return first ++ (← pieces fuel setting)
        | '\x60', _ =>
          let script ← backquoted setting fuel
          let body ← backquoteBody fuel script
          return .output body setting.isQuoted :: (← pieces fuel setting)
        | '\x7d', .braces | '\x7d', .quotedBraces _ => return []
        | '\n', .document => return [.text ['\n'] true]
        | '(', .expression depth =>
          return consText '(' true (← pieces fuel (.expression (depth + 1)))
        | ')', .expression (depth + 1) =>
          return consText ')' true (← pieces fuel (.expression depth))
        | ')', .expression 0 =>
          if ← accept ')' then return []
          else return consText ')' true (← pieces fuel setting)
        | c, setting => return consText c setting.isQuoted (← pieces fuel setting)

/-- What a dollar sign and the text after it stand for. -/
def dollar : (fuel : Nat) → Setting → Parse Word
  | 0, _ => exhausted
  | fuel + 1, setting => do
    let quoted := setting.isQuoted
    match ← peekJoined with
    | none => return [.text ['$'] quoted]
    | some '(' =>
      let _ ← getJoined
      if ← accept '(' then return [.arithmetic (← pieces fuel (.expression 0)) quoted]
      else return [.output (← parenthesizedBody fuel) quoted]
    | some '\x7b' =>
      let _ ← getJoined
      braced fuel setting
    | some c =>
      if isNameStart c then
        return [.parameter (← takeRun isNameChar (fuel + 1)) .value quoted]
      else if isSpecial c then
        let _ ← getJoined
        return [.parameter [c] .value quoted]
      else return [.text ['$'] quoted]

/-- A parameter in braces. -/
def braced : (fuel : Nat) → Setting → Parse Word
  | 0, _ => exhausted
  | fuel + 1, setting => do
    let quoted := setting.isQuoted
    match ← bracedName fuel with
    | none =>
      let _ ← pieces fuel setting.inBraces
      return [.parameter [] .malformed quoted]
    | some ⟨name, true, after⟩ =>
      if after == some '\x7d' then return [.parameter name .length quoted]
      else
        after.forM forgetLine
        modify fun input => { input with rest := after.toList ++ input.rest }
        let _ ← pieces fuel setting.inBraces
        return [.parameter name .malformed quoted]
    | some ⟨name, false, after⟩ =>
      match ← readOperator after with
      | .close => return [.parameter name .value quoted]
      | .fallback operator evenIfEmpty =>
        let word ← pieces fuel setting.inBraces
        return [.parameter name (.fallback operator evenIfEmpty word) quoted]
      | .trim fromStart longest =>
        let pattern ← pieces fuel .braces
        return [.parameter name (.trim fromStart longest pattern) quoted]
      | .malformed =>
        let _ ← pieces fuel setting.inBraces
        return [.parameter name .malformed quoted]

/-- The commands up to a closing parenthesis, which is taken. -/
def parenthesizedBody : (fuel : Nat) → Parse Command
  | 0 => exhausted
  | fuel + 1 => do
    let outer ← get
    set { outer with announced := [], within := none }
    let body ← list fuel true
    let token ← readToken fuel
    if token = .operator ")" then
      modify fun input => { input with announced := outer.announced, within := outer.within }
      return body
    else unexpectedFor (.operator ")")

/-- The commands of a script between backquotes. -/
def backquoteBody : (fuel : Nat) → (script : List Char) → Parse Command
  | 0, _ => exhausted
  | fuel + 1, script => do
    let outer ← get
    set { outer with
      rest := script
      replaced := []
      line := 1
      announced := []
      within := none
      again := false }
    let body ← list fuel true
    let inner ← get
    set { outer with nextDocument := inner.nextDocument, documents := inner.documents }
    return body

/-- The lines of a text in which parameters are replaced. -/
def documentLines : (fuel : Nat) → Announcement → Parse Word
  | 0, _ => exhausted
  | fuel + 1, announcement => do
    if ← takesDelimiter announcement then return []
    else
      let line ← pieces fuel .document
      return line ++ (← documentLines fuel announcement)

/-- Reads the texts that have been announced. -/
def readDocuments : (fuel : Nat) → Parse Unit
  | 0 => exhausted
  | fuel + 1 => do
    match (← get).announced with
    | [] => return
    | announcement :: announced =>
      modify fun input => { input with announced := [] }
      let text ←
        if announcement.exact then
          let lines ← exactLines announcement (fuel + 1)
          pure [.text lines true]
        else
          modify fun input => { input with within := some announcement }
          let lines ← documentLines fuel announcement
          modify fun input => { input with within := none }
          pure lines
      modify fun input => { input with
        announced
        documents := (announcement.number, text) :: input.documents }
      readDocuments fuel

/-- The next token, reserved words and aliases not told from other words. -/
def rawToken : (fuel : Nat) → (delimiter : Bool) → Parse Token
  | 0, _ => exhausted
  | fuel + 1, delimiter => do
    if (← get).again then
      modify fun input => { input with again := false }
      return (← get).token
    else
      match ← peekJoined with
      | none => return .endOfFile
      | some c =>
        if c == ' ' || c == '\t' then
          let _ ← getJoined
          rawToken fuel delimiter
        else if c == '#' then
          skipComment
          rawToken fuel delimiter
        else if c == '\n' then
          let _ ← getJoined
          return .newline
        else if c == '&' then
          let _ ← getJoined
          doubled '&' "&" "&&"
        else if c == '|' then
          let _ ← getJoined
          doubled '|' "|" "||"
        else if c == ';' then
          let _ ← getJoined
          doubled ';' ";" ";;"
        else if c == '(' || c == ')' then
          let _ ← getJoined
          return .operator (String.singleton c)
        else
          let word ← pieces fuel (if delimiter then .delimiter else .word)
          let next ← peekJoined
          match word, next with
          | [], some sign =>
            let _ ← getJoined
            return .redirection (if sign == '>' then 1 else 0) (← redirectionSign sign)
          | [.text [digit] false], some sign =>
            if isNumeral digit && (sign == '<' || sign == '>') then
              let _ ← getJoined
              return .redirection (digit.toNat - '0'.toNat) (← redirectionSign sign)
            else
              modify fun input => { input with word }
              return .word
          | _, _ =>
            modify fun input => { input with word }
            return .word

/-- Leaves out line feeds in front of a token. -/
def afterLines : (fuel : Nat) → Token → Parse Token
  | 0, _ => exhausted
  | fuel + 1, token => do
    if token = .newline then
      readDocuments fuel
      modify fun input => { input with expected := {} }
      afterLines fuel (← rawToken fuel false)
    else return token

/-- The next token, given what is looked for. -/
def tokenFor : (fuel : Nat) → Expected → Parse Token
  | 0, _ => exhausted
  | fuel + 1, expected => do
    let token ← rawToken fuel expected.delimiter
    let token ← if expected.afterLines then afterLines fuel token else pure token
    let expected := expected.or (← get).expected
    modify fun input => { input with expected := {}, token }
    match token, plainWord? (← get).word with
    | .word, some text =>
      let name := String.ofList text
      if expected.reserved && reservedWords.contains name then
        modify fun input => { input with token := .reserved name }
        return .reserved name
      else
        let input ← get
        match input.aliases.lookup text with
        | some value =>
          if expected.aliases && !(input.replaced.any (·.1 == text)) then
            set { input with
              rest := value
              replaced := (text, input.rest) :: input.replaced }
            tokenFor fuel expected
          else return .word
        | none => return .word
    | token, _ => return token

/-- The next token. -/
def readToken : (fuel : Nat) → Parse Token
  | 0 => exhausted
  | fuel + 1 => do tokenFor fuel (← get).expected

/-- Reads the word of a redirection. -/
def readRedirection : (fuel : Nat) → (descriptor : Nat) → (sign : String) → Parse Redirection
  | 0, _, _ => exhausted
  | fuel + 1, descriptor, sign => do
    if sign = "<<" ∨ sign = "<<-" then expect { delimiter := true }
    if (← readToken fuel) = .word then redirectionOf descriptor sign
    else unexpected

/-- Commands one after the other, up to what closes them.  There must be one unless
`optional`. -/
def list : (fuel : Nat) → (optional : Bool) → Parse Command
  | 0, _ => exhausted
  | fuel + 1, optional => do
    expect .command
    let token ← readToken fuel
    if token = .endOfFile then
      readDocuments fuel
      pushBack
      return .nothing
    else
      pushBack
      if optional && token.isCloser then return .nothing
      else
        let first ← andOr fuel
        separated fuel first

/-- What follows a command in a list. -/
def separated : (fuel : Nat) → (first : Command) → Parse Command
  | 0, _ => exhausted
  | fuel + 1, first => do
    let line := (← get).line
    let token ← readToken fuel
    match token with
    | .operator "&" => return inSequence (.background line first) (← list fuel true)
    | .operator ";" => return inSequence first (← list fuel true)
    | .newline =>
      pushBack
      return inSequence first (← list fuel true)
    | .endOfFile =>
      readDocuments fuel
      pushBack
      return first
    | _ =>
      pushBack
      return first

/-- Pipelines joined by `&&` and `||`. -/
def andOr : (fuel : Nat) → Parse Command
  | 0 => exhausted
  | fuel + 1 => do
    let first ← negatable fuel
    andOrRest fuel first

/-- What is joined to a command by `&&` and `||`. -/
def andOrRest : (fuel : Nat) → Command → Parse Command
  | 0, _ => exhausted
  | fuel + 1, first => do
    match ← readToken fuel with
    | .operator "&&" =>
      expect .command
      let second ← negatable fuel
      andOrRest fuel (.both first second)
    | .operator "||" =>
      expect .command
      let second ← negatable fuel
      andOrRest fuel (.either first second)
    | _ =>
      pushBack
      return first

/-- Commands joined by pipes, perhaps negated. -/
def negatable : (fuel : Nat) → Parse Command
  | 0 => exhausted
  | fuel + 1 => do
    if (← readToken fuel) = .reserved "!" then
      expect .here
      return .negation (← piped fuel)
    else
      pushBack
      piped fuel

/-- Commands joined by pipes. -/
def piped : (fuel : Nat) → Parse Command
  | 0 => exhausted
  | fuel + 1 => do
    let first ← command fuel
    match ← pipedRest fuel with
    | [] => return first
    | others => return .pipeline (first :: others)

/-- The commands to which pipes lead. -/
def pipedRest : (fuel : Nat) → Parse (List Command)
  | 0 => exhausted
  | fuel + 1 => do
    if (← readToken fuel) = .operator "|" then
      expect .command
      let next ← command fuel
      return next :: (← pipedRest fuel)
    else
      pushBack
      return []

/-- One command. -/
def command : (fuel : Nat) → Parse Command
  | 0 => exhausted
  | fuel + 1 => do
    let line := (← get).line
    match ← readToken fuel with
    | .reserved "if" =>
      let body ← choice fuel
      closed fuel line body "fi"
    | .reserved "while" =>
      let body ← loop fuel true
      closed fuel line body "done"
    | .reserved "until" =>
      let body ← loop fuel false
      closed fuel line body "done"
    | .reserved "for" =>
      let body ← forEach fuel line
      closed fuel line body "done"
    | .reserved "case" =>
      let body ← select fuel line
      afterCompound fuel line body
    | .reserved "\x7b" =>
      let body ← list fuel false
      closed fuel line body "\x7d"
    | .operator "(" =>
      let body ← list fuel false
      if (← readToken fuel) = .operator ")" then
        afterCompound fuel line (.subshell line body [])
      else unexpectedFor (.operator ")")
    | .word =>
      pushBack
      simple fuel
    | .redirection descriptor sign =>
      modify fun input => { input with token := .redirection descriptor sign }
      pushBack
      simple fuel
    | _ => unexpected

/-- A compound command whose closing word follows. -/
def closed : (fuel : Nat) → (line : Nat) → Command → (word : String) → Parse Command
  | 0, _, _, _ => exhausted
  | fuel + 1, line, body, word => do
    if (← readToken fuel) = .reserved word then afterCompound fuel line body
    else unexpectedFor (.reserved word)

/-- A compound command with the redirections after it. -/
def afterCompound : (fuel : Nat) → (line : Nat) → Command → Parse Command
  | 0, _, _ => exhausted
  | fuel + 1, line, body => do
    expect .here
    return withRedirections line body (← redirections fuel)

/-- Redirections one after the other. -/
def redirections : (fuel : Nat) → Parse (List Redirection)
  | 0 => exhausted
  | fuel + 1 => do
    match ← readToken fuel with
    | .redirection descriptor sign =>
      let first ← readRedirection fuel descriptor sign
      return first :: (← redirections fuel)
    | _ =>
      pushBack
      return []

/-- A choice after `if` or `elif`, up to its closing word, which is not taken. -/
def choice : (fuel : Nat) → Parse Command
  | 0 => exhausted
  | fuel + 1 => do
    let test ← list fuel false
    if (← readToken fuel) = .reserved "then" then
      let yes ← list fuel false
      match ← readToken fuel with
      | .reserved "elif" => return .choice test yes (some (← choice fuel))
      | .reserved "else" => return .choice test yes (some (← list fuel false))
      | _ =>
        pushBack
        return .choice test yes none
    else unexpectedFor (.reserved "then")

/-- A loop after `while` or `until`, up to its closing word. -/
def loop : (fuel : Nat) → (expected : Bool) → Parse Command
  | 0, _ => exhausted
  | fuel + 1, expected => do
    let test ← list fuel false
    if (← readToken fuel) = .reserved "do" then
      return .loop expected test (← list fuel false)
    else unexpectedFor (.reserved "do")

/-- A loop over words after `for`, up to its closing word. -/
def forEach : (fuel : Nat) → (line : Nat) → Parse Command
  | 0, _ => exhausted
  | fuel + 1, line => do
    let token ← readToken fuel
    match token, plainWord? (← get).word with
    | .word, some name =>
      if isName name then
        expect .command
        let words ←
          if (← readToken fuel) = .reserved "in" then wordsOfLoop fuel
          else
            if (← get).token != .operator ";" then pushBack
            pure [[.parameter ['@'] .value true]]
        expect .command
        if (← readToken fuel) = .reserved "do" then
          return .forEach line name words (← list fuel false)
        else unexpectedFor (.reserved "do")
      else complain "Bad for loop variable".toList
    | _, _ => complain "Bad for loop variable".toList

/-- The words of a loop, and the end of the line or a semicolon. -/
def wordsOfLoop : (fuel : Nat) → Parse (List Word)
  | 0 => exhausted
  | fuel + 1 => do
    match ← readToken fuel with
    | .word =>
      let word := (← get).word
      return word :: (← wordsOfLoop fuel)
    | .newline => do
      readDocuments fuel
      return []
    | .operator ";" => return []
    | _ => unexpected

/-- The arms after `case`, up to the closing word, which is taken. -/
def select : (fuel : Nat) → (line : Nat) → Parse Command
  | 0, _ => exhausted
  | fuel + 1, line => do
    if (← readToken fuel) = .word then
      let subject := (← get).word
      expect .command
      if (← readToken fuel) = .reserved "in" then
        expect { afterLines := true, reserved := true }
        let token ← readToken fuel
        return .select line subject (← arms fuel token)
      else unexpectedFor (.reserved "in")
    else unexpectedFor .word

/-- The arms of a selection from a first token on. -/
def arms : (fuel : Nat) → Token → Parse (List (List Word × Command))
  | 0, _ => exhausted
  | fuel + 1, token => do
    if token = .reserved "esac" then return []
    else
      if token = .operator "(" then
        let _ ← readToken fuel
      let patterns ← patternsOfArm fuel
      let body ← list fuel true
      expect { afterLines := true, reserved := true }
      let token ← readToken fuel
      if token = .reserved "esac" then return [(patterns, body)]
      else if token = .operator ";;" then
        expect { afterLines := true, reserved := true }
        let token ← readToken fuel
        return (patterns, body) :: (← arms fuel token)
      else unexpectedFor (.operator ";;")

/-- The patterns of an arm, of which the first has been read, and the closing
parenthesis. -/
def patternsOfArm : (fuel : Nat) → Parse (List Word)
  | 0 => exhausted
  | fuel + 1 => do
    let word := (← get).word
    match ← readToken fuel with
    | .operator "|" =>
      let _ ← readToken fuel
      return word :: (← patternsOfArm fuel)
    | .operator ")" => return [word]
    | _ => unexpectedFor (.operator ")")

/-- A simple command, or the definition of a function. -/
def simple : (fuel : Nat) → Parse Command
  | 0 => exhausted
  | fuel + 1 => do
    let line := (← get).line
    simpleParts fuel line [] [] []

/-- The parts of a simple command after those that have been read, which are given
in reverse order. -/
def simpleParts : (fuel : Nat) → (line : Nat) → (assignments words : List Word) →
    (redirections : List Redirection) → Parse Command
  | 0, _, _, _, _ => exhausted
  | fuel + 1, line, assignments, words, redirections => do
    expect { aliases := words.isEmpty }
    match ← readToken fuel with
    | .word =>
      let word := (← get).word
      if words.isEmpty && (assignment? word).isSome then
        simpleParts fuel line (word :: assignments) words redirections
      else simpleParts fuel line assignments (word :: words) redirections
    | .redirection descriptor sign =>
      let redirection ← readRedirection fuel descriptor sign
      simpleParts fuel line assignments words (redirection :: redirections)
    | token =>
      match token, assignments, words, redirections with
      | .operator "(", [], [name], [] => definition fuel name
      | _, _, _, _ =>
        pushBack
        return .simple line assignments.reverse words.reverse redirections.reverse

/-- The definition of a function after its name and an opening parenthesis. -/
def definition : (fuel : Nat) → (name : Word) → Parse Command
  | 0, _ => exhausted
  | fuel + 1, name => do
    if (← readToken fuel) = .operator ")" then
      match plainWord? name with
      | some name =>
        if isName name && !(reservedNames.contains (String.ofList name)) then
          expect .command
          let line := (← get).line
          return .define line name (← command fuel)
        else complain "Bad function name".toList
      | none => complain "Bad function name".toList
    else unexpectedFor (.operator ")")

end

/-- The next command of a script, none at its end. -/
def topCommand (fuel : Nat) : Parse (Option Command) := do
  modify fun input => { input with again := false, announced := [] }
  expect .here
  match ← readToken fuel with
  | .newline =>
    readDocuments fuel
    return some .nothing
  | .endOfFile => return none
  | _ =>
    pushBack
    return some (← topList fuel .nothing)
where
  /-- Commands up to the end of the line. -/
  topList : (fuel : Nat) → Command → Parse Command
    | 0, _ => exhausted
    | fuel + 1, before => do
      let first ← andOr fuel
      let line := (← get).line
      let token ← readToken fuel
      let before := inSequence before
        (if token = .operator "&" then .background line first else first)
      match token with
      | .newline =>
        readDocuments fuel
        return before
      | .endOfFile =>
        readDocuments fuel
        return before
      | .operator ";" | .operator "&" =>
        expect .here
        match ← readToken fuel with
        | .newline =>
          readDocuments fuel
          return before
        | .endOfFile =>
          readDocuments fuel
          return before
        | token =>
          pushBack
          if token.isCloser then unexpected
          else topList fuel before
      | _ => unexpected

/-- The next command of a script and the rest of it; no command at its end. -/
def Input.nextCommand (input : Input) : Except Complaint (Option Command × Input) :=
  (topCommand (32 * input.rest.length + 256)).run input

end HostPreflight.Machine.Shell
