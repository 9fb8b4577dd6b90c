import DoorControl.Bytes

/-!
A map from keys to values, kept in the order of the keys.
-/

namespace DoorControl

structure Storage where
  entries : List (Bytes × Bytes) := []

namespace Storage

/-- Byte by byte, the shorter text first when it begins the longer. -/
def keyLess : Bytes → Bytes → Bool
  | [], [] => false
  | [], _ :: _ => true
  | _ :: _, [] => false
  | a :: s, b :: t => if a = b then keyLess s t else a < b

def find? (m : Storage) (key : Bytes) : Option Bytes := m.entries.lookup key

/-- The value of a key, empty when it has none. -/
def get (m : Storage) (key : Bytes) : Bytes := (m.find? key).getD []

def erase (m : Storage) (key : Bytes) : Storage := ⟨m.entries.filter (·.1 != key)⟩

def set (m : Storage) (key value : Bytes) : Storage :=
  let others := (m.erase key).entries
  ⟨others.filter (keyLess ·.1 key) ++ [(key, value)] ++ others.filter (!keyLess ·.1 key)⟩

theorem lookup_filter (p : Bytes → Bool) (entries : List (Bytes × Bytes)) (key : Bytes) :
    (entries.filter fun e => p e.1).lookup key = if p key then entries.lookup key else none := by
  induction entries with
  | nil => simp
  | cons e rest ih =>
    obtain ⟨k, v⟩ := e
    by_cases hk : key = k
    · subst hk
      by_cases hp : p key <;> simp [hp, ih]
    · have : (key == k) = false := by simpa using hk
      by_cases hp : p k <;> simp [hp, List.lookup_cons, this, ih]

theorem find?_erase (m : Storage) (key other : Bytes) :
    (m.erase key).find? other = if other = key then none else m.find? other := by
  rw [find?, find?, erase, lookup_filter (· != key)]
  by_cases h : other = key <;> simp [h]

theorem find?_set (m : Storage) (key value other : Bytes) :
    (m.set key value).find? other = if other = key then some value else m.find? other := by
  have before := lookup_filter (keyLess · key) (m.erase key).entries other
  have behind := lookup_filter (fun k => !keyLess k key) (m.erase key).entries other
  have erased := find?_erase m key other
  rw [find?] at erased
  simp only [find?, set, List.lookup_append, before, behind, erased]
  by_cases h : other = key
  · simp [h]
  · have : (other == key) = false := by simpa using h
    by_cases hl : keyLess other key <;> simp [h, hl, List.lookup_cons, this]

theorem get_set (m : Storage) (key value other : Bytes) :
    (m.set key value).get other = if other = key then value else m.get other := by
  rw [get, find?_set]
  split <;> rfl

/-- Changes the bits of a mask in one byte of a value. A byte beyond its end stays untouched, but
the key is there afterwards. -/
def flip (m : Storage) (key : Bytes) (place : Nat) (mask : UInt8) : Storage :=
  m.set key ((m.get key).modify place (· ^^^ mask))

end Storage

end DoorControl
