/-
# Rewriting

A best-effort clean-up of JavaScript and TypeScript, as text. Five substitutions run one after the
other, each on what the one before has left:

1. `var ` becomes `const `;
2. `==` becomes `===`;
3. `!=` becomes `!==`;
4. a call of `console.log` goes, with a semicolon and all blanks behind it;
5. `function(` becomes `function (`.

The second comes before the third, so operators that were strict already come out longer. Stored
rewrites stay comparable because this is kept.

Main statements: `rewrite_eq_comp` (the rewrite is the five passes in order) and `dropCalls_nil`.
-/
import Critique.Text.Search
import Critique.Text.Space

namespace Critique.Rewrite

/-! ## 1. Dropping calls -/

/-- What a call that is dropped begins with. -/
def callHead : String := "console.log("

/-- The length of the call at the start of a text, if there is one: up to the first closing
parenthesis, one semicolon behind it, and every blank behind that. -/
def callLength? (s : List Char) : Option Nat :=
  if Text.begins s callHead then
    let inside := (s.drop callHead.length).takeWhile (· != ')')
    match s.drop (callHead.length + inside.length) with
    | [] => none
    | _ :: behind =>
      let semicolon := if behind.head? = some ';' then 1 else 0
      let blanks := ((behind.drop semicolon).takeWhile Text.isBlank).length
      some (callHead.length + inside.length + 1 + semicolon + blanks)
  else none

/-- Drops calls from the left; `skip` characters still belong to the call in hand. -/
def dropCallsSkipping : Nat → List Char → List Char
  | _, [] => []
  | skip + 1, _ :: t => dropCallsSkipping skip t
  | 0, c :: t =>
    match callLength? (c :: t) with
    | some length => dropCallsSkipping (length - 1) t
    | none => c :: dropCallsSkipping 0 t

/-- The text without its calls of `console.log`. -/
def dropCalls (s : List Char) : List Char :=
  dropCallsSkipping 0 s

@[simp] theorem dropCalls_nil : dropCalls [] = [] := rfl

/-! ## 2. The passes -/

/-- The five passes, in order. -/
def passes : List (List Char → List Char) :=
  [Text.replaceAll "var " "const ", Text.replaceAll "==" "===", Text.replaceAll "!=" "!==",
    dropCalls, Text.replaceAll "function(" "function ("]

/-- The rewrite of a text. -/
def rewriteChars (s : List Char) : List Char :=
  passes.foldl (fun text pass => pass text) s

/-- The rewrite of a source. -/
def rewrite (code : String) : String :=
  String.ofList (rewriteChars code.toList)

theorem rewrite_eq_comp (s : List Char) :
    rewriteChars s =
      Text.replaceAll "function(" "function (" (dropCalls (Text.replaceAll "!=" "!=="
        (Text.replaceAll "==" "===" (Text.replaceAll "var " "const " s)))) := rfl

end Critique.Rewrite
