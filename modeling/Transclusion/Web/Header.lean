import Transclusion.Text.Blank

/-!
# Header maps and status classes

A header map holds, for each name, the list of its values. Names are stored as
given; every lookup first brings the name it looks up into canonical form (the
first letter and every letter after a hyphen upper case, the rest lower case),
so a lookup finds an entry only when the entry's name is itself canonical.
Entries keep the order in which they were added. A name may also be present
with no value list at all (written `null`); it reads as having no values, and
only the encodings of a header map tell it apart from an empty list.

Response statuses come in two classes: those that resolve an include, and
those a cache may keep.

Proved: `values_empty`, and `values_store_none` (a name stored without a
list reads as having no values).
-/

namespace Transclusion.Http

/-- A character allowed in a header name: letters, digits and
``!#$%&'*+-.^_`|~``. -/
def isTokenChar (c : Char) : Bool :=
  c.isAlphanum || "!#$%&'*+-.^_`|~".toList.contains c

/-- Canonical form of a header name. A name holding a character outside the
token alphabet is left exactly as it is. -/
def canonicalKey (s : String) : String :=
  if s.toList.all (fun c => isTokenChar c && c.toNat < 0x80) then
    let rec go : List Char → Bool → List Char
      | [], _ => []
      | c :: cs, upper =>
        let c' := if upper then c.toUpper else c.toLower
        c' :: go cs (c' == '-')
    String.ofList (go s.toList true)
  else s

/-- Header names with their value lists, in insertion order; `none` is a name
present without a list. -/
structure Header where
  entries : List (String × Option (List String)) := []
  deriving Repr, Inhabited, DecidableEq

namespace Header

/-- The empty header map. -/
def empty : Header := ⟨[]⟩

/-- The values stored under exactly this key; `none` when the key is absent
or holds no list. -/
def rawValues (h : Header) (key : String) : Option (List String) :=
  (h.entries.find? (·.1 == key)).bind (·.2)

def values (h : Header) (name : String) : List String :=
  (h.rawValues (canonicalKey name)).getD []

/-- The first value of a header, or the empty string. -/
def get (h : Header) (name : String) : String :=
  (h.values name).headD ""

/-- Stores a value list (or none) under exactly this key, replacing what was
there. -/
def store (h : Header) (key : String) (vs : Option (List String)) : Header :=
  if h.entries.any (·.1 == key) then
    ⟨h.entries.map fun e => if e.1 == key then (key, vs) else e⟩
  else ⟨h.entries ++ [(key, vs)]⟩

def setRaw (h : Header) (key : String) (vs : List String) : Header :=
  h.store key (some vs)

/-- Replaces a header by the single value `v`. -/
def set (h : Header) (name v : String) : Header :=
  h.setRaw (canonicalKey name) [v]

def add (h : Header) (name v : String) : Header :=
  let key := canonicalKey name
  h.setRaw key (((h.rawValues key).getD []) ++ [v])

def del (h : Header) (name : String) : Header :=
  let key := canonicalKey name
  ⟨h.entries.filter (·.1 != key)⟩

def size (h : Header) : Nat := h.entries.length

/-- The allowed headers present in `h`, each under the canonical form of its
allowed name. -/
def filter (h : Header) (allowed : List String) : Header :=
  allowed.foldl (fun out name =>
    match h.values name with
    | [] => out
    | vs => out.setRaw (canonicalKey name) vs) empty

theorem values_empty (name : String) : empty.values name = [] := rfl

/-- Replacing every entry under `key` by one without a list leaves nothing
to find there. -/
theorem replaced_values_none (l : List (String × Option (List String))) (key : String) :
    ((l.map fun e => if e.1 == key then (key, none) else e).find? (·.1 == key)).bind (·.2) = none := by
  induction l with
  | nil => rfl
  | cons e l ih =>
    by_cases he : e.1 == key
    · simp only [List.map_cons, he, ↓reduceIte, List.find?_cons, beq_self_eq_true, Option.bind_some]
    · simp only [List.map_cons, he, Bool.false_eq_true, ↓reduceIte, List.find?_cons]
      simpa [he] using ih

/-- A key stored without a list holds no values. -/
theorem rawValues_store_none (h : Header) (key : String) : (h.store key none).rawValues key = none := by
  unfold store rawValues
  split
  · exact replaced_values_none h.entries key
  · rename_i hany
    have : h.entries.find? (·.1 == key) = none := by
      rw [List.find?_eq_none]
      intro x hx hk
      exact hany (List.any_eq_true.mpr ⟨x, hx, hk⟩)
    simp [List.find?_append, this]

/-- A header stored without a list reads as having no values. -/
theorem values_store_none (h : Header) (name : String) :
    (h.store (canonicalKey name) none).values name = [] := by
  simp [values, rawValues_store_none]

end Header

/-! ## Status classes

Which response statuses a fragment may carry to resolve an include, and which
may be stored in the cache. Every successful status is cacheable; the
cacheable statuses are those that a cache may keep by default. -/

/-- Statuses that resolve an include: 200, 203, 204 and 206. -/
def isSuccess (status : Int) : Bool :=
  status == 200 || status == 203 || status == 204 || status == 206

/-- Statuses a cache may keep: the successful ones, 300, 404, 405, 410, 414
and 501. -/
def isCacheable (status : Int) : Bool :=
  isSuccess status || status == 300 || status == 404 || status == 405 || status == 410 ||
    status == 414 || status == 501

theorem isCacheable_of_isSuccess {s : Int} (h : isSuccess s = true) : isCacheable s = true := by
  simp [isCacheable, h]

end Transclusion.Http
