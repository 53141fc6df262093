import JobGate.Text.Cut
/-! The grammar of labels. A name is one to 63 ASCII letters, digits, dashes, underscores and dots;
a key may have a lower-case host name and a slash before it, a value may be empty. -/
namespace JobGate.Label

def nameLimit : Nat := 63
def domainLimit : Nat := 253

def isLower (c : Char) : Bool := 'a' ≤ c && c ≤ 'z'
def isUpper (c : Char) : Bool := 'A' ≤ c && c ≤ 'Z'
def isDigit (c : Char) : Bool := '0' ≤ c && c ≤ '9'
def isAlphanumeric (c : Char) : Bool := isLower c || isUpper c || isDigit c
def isLowerAlphanumeric (c : Char) : Bool := isLower c || isDigit c
def isNameChar (c : Char) : Bool := isAlphanumeric c || c = '-' || c = '_' || c = '.'
def isDomainChar (c : Char) : Bool := isLowerAlphanumeric c || c = '-'

/-- Not empty, of `inner` characters, and with an `outer` one at both ends. -/
def isEdged (outer inner : Char → Bool) (cs : List Char) : Bool :=
  cs.head?.any outer && cs.getLast?.any outer && cs.all inner

def isWord (cs : List Char) : Bool := isEdged isAlphanumeric isNameChar cs
def isHostName (cs : List Char) : Bool :=
  (cs.splitOn '.').all (isEdged isLowerAlphanumeric isDomainChar)

inductive NameFault where
  | empty | tooLong | malformed
  deriving DecidableEq, Repr

inductive DomainFault where
  | empty | tooLong | malformed
  deriving DecidableEq, Repr

def nameFault? (name : List Char) : Option NameFault :=
  if name = [] then some .empty
  else if nameLimit < name.length then some .tooLong
  else if isWord name then none
  else some .malformed

def domainFault? (domain : List Char) : Option DomainFault :=
  if domain = [] then some .empty
  else if domainLimit < domain.length then some .tooLong
  else if isHostName domain then none
  else some .malformed

def valueFault? (value : List Char) : Option NameFault :=
  if value = [] then none else nameFault? value

def splitKey (key : List Char) : Option (List Char) × List Char :=
  match Text.cut '/' key with
  | some (domain, name) => (some domain, name)
  | none => (none, key)

inductive KeyFault where
  | domain (fault : DomainFault)
  | name (fault : NameFault)
  deriving DecidableEq, Repr

def keyFaults (key : List Char) : List KeyFault :=
  let (domain, name) := splitKey key
  ((domain.bind domainFault?).map KeyFault.domain).toList ++
    ((nameFault? name).map KeyFault.name).toList

/- The same grammar as predicates. -/

structure IsName (cs : List Char) : Prop where
  nonempty : cs ≠ []
  length_le : cs.length ≤ nameLimit
  chars : ∀ c ∈ cs, isNameChar c
  head : ∀ c ∈ cs.head?, isAlphanumeric c
  last : ∀ c ∈ cs.getLast?, isAlphanumeric c

structure IsDomainPart (cs : List Char) : Prop where
  nonempty : cs ≠ []
  chars : ∀ c ∈ cs, isDomainChar c
  head : ∀ c ∈ cs.head?, c ≠ '-'
  last : ∀ c ∈ cs.getLast?, c ≠ '-'

structure IsDomain (cs : List Char) : Prop where
  nonempty : cs ≠ []
  length_le : cs.length ≤ domainLimit
  parts : ∀ p ∈ cs.splitOn '.', IsDomainPart p

def IsKey (key : List Char) : Prop :=
  ('/' ∉ key ∧ IsName key) ∨
    ∃ domain name, key = domain ++ '/' :: name ∧ '/' ∉ domain ∧ IsDomain domain ∧ IsName name

def IsValue (value : List Char) : Prop := value = [] ∨ IsName value

end JobGate.Label
