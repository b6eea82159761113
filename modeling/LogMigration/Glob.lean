import LogMigration.Text.Basic
import LogMigration.Text.Rests

/-!
# Glob patterns

Patterns over paths: `?` is any character, `*` any text, `[…]` and `[!…]` a character of a set or
outside it, and `**` as a whole path component any number of whole components.  Slashes are ordinary
characters for `?` and `*`; there is no escape.

* `Glob.parse` — a pattern from its text, or where and why the text is no pattern.
* `Glob.fitsFrom` — what it means that a text fits a list of tokens, by all ways to divide the text.
* `Glob.fits` — whether a text fits a pattern, in one pass of the text for each token;
  `fits_eq_fitsFrom` says that this is the meaning.
-/

set_option autoImplicit false

namespace LogMigration

/-- A member of a character set: a character, or all from one to another. -/
inductive CharRange where
  | one (c : Char)
  | span (low high : Char)
  deriving DecidableEq, Repr

/-- Whether a character is meant by the member. -/
def CharRange.contains : CharRange → Char → Bool
  | .one d, c => c = d
  | .span low high, c => low ≤ c && c ≤ high

/-- The members of a set, from what stands between its brackets. -/
def CharRange.parse : Text → List CharRange
  | [] => []
  | low :: '-' :: high :: rest => .span low high :: CharRange.parse rest
  | c :: rest => .one c :: CharRange.parse rest

/-- Why a text is no pattern. -/
inductive GlobFault where
  | wildcards
  | recursiveWildcards
  | invalidRange
  deriving DecidableEq, Repr

/-- A text that is no pattern: why, and near which character. -/
structure GlobError where
  position : Nat
  fault : GlobFault
  deriving DecidableEq, Repr

def GlobError.message (e : GlobError) : String :=
  let reason := match e.fault with
    | .wildcards => "wildcards are either regular `*` or recursive `**`"
    | .recursiveWildcards => "recursive wildcards must form a single path component"
    | .invalidRange => "invalid range pattern"
  "Pattern syntax error near position " ++ toString e.position ++ ": " ++ reason

namespace Glob

/-- What a pattern is made of. -/
inductive Token where
  | char (c : Char)
  | anyChar
  | anySequence
  | anyComponents
  | within (set : List CharRange)
  | without (set : List CharRange)
  deriving DecidableEq, Repr

end Glob

/-- A pattern, with the text it was written as. -/
structure Glob where
  source : Text
  tokens : List Glob.Token
  deriving DecidableEq, Repr

namespace Glob

/-- The set that starts after an opening bracket: its token, and the number of characters taken.
The first character of a set may be a closing bracket. -/
def parseSet? : Text → Option (Token × Nat)
  | '!' :: first :: rest =>
    if ']' ∈ rest then
      let inner := first :: rest.takeWhile (· ≠ ']')
      some (.without (CharRange.parse inner), inner.length + 2)
    else none
  | first :: rest =>
    if first ≠ '!' && ']' ∈ rest then
      let inner := first :: rest.takeWhile (· ≠ ']')
      some (.within (CharRange.parse inner), inner.length + 1)
    else none
  | [] => none

/-- Adds a token for whole components to the tokens so far, the latest first, unless one stands at
the end already.  At the very start of a pattern two of them are kept. -/
def pushComponents : List Token → List Token
  | .anyComponents :: t :: ts => .anyComponents :: t :: ts
  | made => .anyComponents :: made

/-- The tokens of the rest of a pattern, given the position, the character before it and the tokens
so far, the latest first. -/
def parseFrom : Nat → Nat → Option Char → List Token → Text → Except GlobError (List Token)
  | 0, _, _, made, _ => .ok made.reverse
  | _ + 1, _, _, made, [] => .ok made.reverse
  | fuel + 1, pos, before, made, c :: rest =>
    match c with
    | '?' => parseFrom fuel (pos + 1) (some c) (.anyChar :: made) rest
    | '*' =>
      let stars := (rest.takeWhile (· = '*')).length + 1
      let after := rest.dropWhile (· = '*')
      if 2 < stars then .error ⟨pos + 2, .wildcards⟩
      else if stars = 1 then parseFrom fuel (pos + 1) (some c) (.anySequence :: made) after
      else if before = none || before = some '/' then
        match after with
        | '/' :: more => parseFrom fuel (pos + 3) (some '/') (pushComponents made) more
        | [] => .ok (pushComponents made).reverse
        | _ :: _ => .error ⟨pos + 2, .recursiveWildcards⟩
      else .error ⟨pos - 1, .recursiveWildcards⟩
    | '[' =>
      match parseSet? rest with
      | some (token, taken) =>
        parseFrom fuel (pos + 1 + taken) (some ']') (token :: made) (rest.drop taken)
      | none => .error ⟨pos, .invalidRange⟩
    | _ => parseFrom fuel (pos + 1) (some c) (.char c :: made) rest

def parse (s : Text) : Except GlobError Glob :=
  (parseFrom s.length 0 none [] s).map fun tokens => ⟨s, tokens⟩

/-! ## Matching -/

def Token.accepts : Token → Char → Bool
  | .char d, c => c = d
  | .anyChar, _ => true
  | .within set, c => set.any (·.contains c)
  | .without set, c => !set.any (·.contains c)
  | .anySequence, _ | .anyComponents, _ => false

def isSlash (c : Char) : Bool := c = '/'

/-- Whether a text fits a list of tokens. -/
def fitsFrom : List Token → Text → Bool
  | [], s => s.isEmpty
  | .anySequence :: ts, s => (Rests.all s).any (fitsFrom ts)
  | .anyComponents :: ts, s =>
    fitsFrom ts s || (Rests.afterSeparator isSlash s).any (fitsFrom ts) || fitsFrom ts []
  | t :: ts, s => Rests.startsWith t.accepts (fitsFrom ts) s

/-- Whether the rests of a text fit a list of tokens, the whole text first. -/
def fitRow : List Token → Text → List Bool
  | [], s => Rests.ended s
  | .anySequence :: ts, s => Rests.anywhere (fitRow ts s)
  | .anyComponents :: ts, s => Rests.afterEach isSlash s (fitRow ts s)
  | t :: ts, s => Rests.step t.accepts s (fitRow ts s)

theorem fitRow_eq_row (ts : List Token) (s : Text) : fitRow ts s = Rests.row (fitsFrom ts) s := by
  induction ts with
  | nil => exact Rests.ended_eq_row s
  | cons t ts ih =>
    cases t with
    | anySequence =>
      rw [fitRow, ih, Rests.anywhere_row]
      rfl
    | anyComponents =>
      rw [fitRow, ih, Rests.afterEach_row]
      rfl
    | char | anyChar | within | without =>
      rw [fitRow, ih, Rests.step_row]
      · rfl
      all_goals simp

def fits (g : Glob) (s : Text) : Bool := (fitRow g.tokens s).headD false

/-- A text fits a pattern when it fits its tokens. -/
theorem fits_eq_fitsFrom (g : Glob) (s : Text) : g.fits s = fitsFrom g.tokens s := by
  rw [fits, fitRow_eq_row, Rests.headD_row]

end Glob

end LogMigration
