import MinimalRouter.Goish.Base64
import MinimalRouter.Goish.Clock
import MinimalRouter.Goish.Net

namespace MinimalRouter.Config

open Goish

/-- A text that starts with one kind of character and goes on with another, up to a length. -/
def startsThen (first rest : Char → Bool) (most : Nat) (s : String) : Bool :=
  match s.toList with
  | [] => false
  | c :: cs => first c && cs.all rest && cs.length ≤ most

def startsEnds (first rest : Char → Bool) (most : Nat) (s : String) : Bool :=
  match s.toList with
  | [] => false
  | c :: cs => first c && (cs.isEmpty ||
      (cs.getLast?.any first && cs.dropLast.all rest && cs.dropLast.length ≤ most))

def isAsciiLower (c : Char) : Bool := 'a' ≤ c && c ≤ 'z'

def alphanumericOr (others : List Char) (c : Char) : Bool :=
  isAsciiAlphanumeric c || others.contains c

def interfaceNamePattern : String → Bool :=
  startsThen isAsciiAlphanumeric (alphanumericOr ['_', '.', '-']) 14

def hostnamePattern : String → Bool := startsEnds isAsciiAlphanumeric (alphanumericOr ['-']) 61

def domainPattern : String → Bool := startsEnds isAsciiAlphanumeric (alphanumericOr ['.', '-']) 251

def safeNamePattern (u : Unicode) : String → Bool :=
  let word c := u.isLetter c || u.isNumber c
  startsThen word (fun c => word c || [' ', '.', '_', '(', ')', '/', '-'].contains c) 63

def presetIdPattern : String → Bool :=
  startsThen isAsciiLower (fun c => isAsciiLower c || isAsciiDigit c || c == '-') 31

def credentialNamePattern : String → Bool :=
  startsThen isAsciiAlphanumeric (alphanumericOr ['_', '.', '-']) 63

def cloudflareTokenPattern (s : String) : Bool :=
  let cs := s.toList
  cs.all (alphanumericOr ['_', '-']) && 20 ≤ cs.length && cs.length ≤ 256

def wireguardEndpointHostPattern : String → Bool := domainPattern

def deviceProfileIdPattern : String → Bool :=
  startsThen isAsciiAlphanumeric (alphanumericOr ['_', '-']) 63

def hasUnsafeControl (value : String) : Bool := hasControl value

def validInterfaceName (value : String) : Bool := interfaceNamePattern value

def validWireguardKey (value : String) : Bool :=
  (Base64.stdDecode value).any fun bytes => bytes.length == 32

def startsWith (start s : String) : Bool := start.toList.isPrefixOf s.toList

def endsWith (last s : String) : Bool := last.toList.isSuffixOf s.toList

def validDnsNameStrict (value : String) : Bool :=
  let cs := Lib.Utf8.trim value.toList
  !cs.isEmpty && Lib.Utf8.byteLen cs ≤ 253 && cs.head? != some '.' && cs.getLast? != some '.' &&
    (cs.splitOn '.').all fun label =>
      !label.isEmpty && Lib.Utf8.byteLen label ≤ 63 && label.head? != some '-' &&
        label.getLast? != some '-' && label.all (alphanumericOr ['-'])

theorem ne_empty_of_startsThen (h : startsThen first rest most s = true) : s ≠ "" := by
  rintro rfl
  cases h

theorem ne_empty_of_validInterfaceName (h : validInterfaceName s = true) : s ≠ "" :=
  ne_empty_of_startsThen h

end MinimalRouter.Config
