import Gatekeeper.Url.Percent
/-!
# Query strings

A query string as a form sends it: `key=value` pairs between ampersands, where `+` stands for a
space and any other byte may be percent-encoded.

* `pairs` reads every text. Empty pairs are skipped, a pair without `=` has an empty value, and
  bytes that are no UTF-8 become replacement characters.
* `first?` is the value of the first pair with a given key. Question marks before the first pair
  do not count.

The pairs are split before anything is decoded, so an encoded ampersand or equals sign is text.
-/

namespace Gatekeeper.Url.Query

/-- The text of a key or a value: `+` first, then the escapes. -/
def decode (cs : List Char) : List Char :=
  Utf8.decodeLossy
    (Percent.decode (Utf8.encode (cs.map fun c => if c = '+' then ' ' else c)))

/-- Key and value of one pair, split at its first equals sign. -/
def pair (cs : List Char) : List Char × List Char :=
  (decode (cs.takeWhile (· ≠ '=')), decode ((cs.dropWhile (· ≠ '=')).drop 1))

/-- The pairs of a query string without its question mark. -/
def pairs (cs : List Char) : List (List Char × List Char) :=
  ((cs.splitOn '&').filter fun p => !p.isEmpty).map pair

/-- The value of the first pair with the key. -/
def lookup? (key : List Char) (cs : List Char) : Option (List Char) :=
  ((pairs cs).find? fun p => p.1 = key).map (·.2)

/-- The value of the first pair with the key, any question marks in front left out. -/
def first? (key : String) (query : String) : Option String :=
  (lookup? key.toList (query.toList.dropWhile (· = '?'))).map String.ofList

end Gatekeeper.Url.Query
