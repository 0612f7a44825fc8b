import MinimalRouter.Goish.Strings

namespace MinimalRouter.Goish.Base64

def sextet (c : Char) : Option Nat :=
  if 'A' ≤ c && c ≤ 'Z' then some (c.toNat - 'A'.toNat)
  else if 'a' ≤ c && c ≤ 'z' then some (c.toNat - 'a'.toNat + 26)
  else if isAsciiDigit c then some (c.toNat - '0'.toNat + 52)
  else if c = '+' then some 62
  else if c = '/' then some 63
  else none

def lastGroup (a b c d : Char) : Option (List Nat) := do
  let a ← sextet a
  let b ← sextet b
  let first := a * 4 + b / 16
  if c = '=' then if d = '=' then some [first] else none
  else
    let c ← sextet c
    let second := b % 16 * 16 + c / 4
    if d = '=' then some [first, second]
    else
      let d ← sextet d
      some [first, second, c % 4 * 64 + d]

def decodeGroups : List Char → Option (List Nat)
  | [] => some []
  | [a, b, c, d] => lastGroup a b c d
  | a :: b :: c :: d :: rest => do
    if c = '=' ∨ d = '=' then none
    else return (← lastGroup a b c d) ++ (← decodeGroups rest)
  | _ => none

def stdDecode (text : String) : Option (List Nat) :=
  decodeGroups (text.toList.filter fun c => c != '\r' && c != '\n')

end MinimalRouter.Goish.Base64
