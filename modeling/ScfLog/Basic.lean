import Mathlib.Algebra.BigOperators.Group.List
import Mathlib.Data.List.Nodup
import Mathlib.Algebra.Order.Ring.Int
import Mathlib.Order.MinMax

/-!
# Python values the producer works with

`scf_log` passes log fields, field maps and configuration between its parts as
Python `dict[str, str]` values, and reports failures as Python exceptions. This
file fixes the shapes every later file uses.

A Python `str` is a sequence of code points, lone surrogates included: decoding
bytes that are not UTF-8 with `os.fsdecode` or the `surrogateescape` handler makes
them, and a log message, a file name or a context field can carry one. UTF-8 cannot
encode a lone surrogate, so a `str` is modelled as a list of `PyChar`, which is a
Lean `Char` (a Unicode scalar value) or a surrogate.

## Main definitions

* `ScfLog.PyError` — an exception escaping a modelled function, by class and message
* `ScfLog.PyChar`, `ScfLog.PyStr` — a code point of a `str`, and a `str`
* `PyStr.Encodable` — a `str` with no lone surrogate, which UTF-8 can encode
* `ScfLog.PyDict` — a `dict[str, str]`: its items in insertion order, no key twice
* `PyDict.setItem` — `d[key] = value`: an existing key keeps its place, a new key goes last
* `PyDict.get` — `d.get(key, default)`
* `ScfLog.assign` — `d[key] = value` on the items of a dict with keys of any type

## Main results

* `PyDict.keys_setItem_of_mem`, `PyDict.keys_setItem_of_not_mem` — how assignment moves keys
* `PyDict.mem_items_setItem` — assignment adds no item but the one assigned
* `ScfLog.lookup_foldl_assign` — assigning items in turn, each under a renamed key,
  leaves under a key the value of the last item renamed to it
-/

namespace ScfLog

/-- An exception that escapes a modelled function. Only the classes the code can
raise are kept; the message is the text Python attaches. -/
inductive PyError
  | valueError (message : String)
  | overflowError (message : String)
  | osError (message : String)
  /-- `UnicodeEncodeError` from encoding a `str` as UTF-8: the position of its first
  lone surrogate -/
  | unicodeEncodeError (position : Nat)
  deriving DecidableEq, Repr

/-- A code point of a Python `str`: a Unicode scalar value, which a Lean `Char`
holds, or the lone surrogate `U+D800 + offset`. -/
inductive PyChar
  | char (c : Char)
  | surrogate (offset : Fin 2048)
  deriving DecidableEq, Repr

/-- Whether a code point is a lone surrogate. -/
def PyChar.isSurrogate : PyChar → Bool
  | .char _ => false
  | .surrogate _ => true

/-- A Python `str`: its code points, in order. `len` counts them. -/
abbrev PyStr := List PyChar

namespace PyStr

/-- `==` on `str` values: equality of their code points. -/
instance : BEq PyStr := instBEqOfDecidableEq

/-- A `str` literal of the source, or the text of a value with no surrogate in it. -/
def ofString (s : String) : PyStr := s.toList.map .char

instance : Coe String PyStr := ⟨ofString⟩

/-- A `str` that UTF-8 can encode: one with no lone surrogate. -/
def Encodable (s : PyStr) : Prop := ∀ c ∈ s, c.isSurrogate = false

instance (s : PyStr) : Decidable (Encodable s) := inferInstanceAs (Decidable (∀ c ∈ s, _))

@[simp] theorem ofString_inj {a b : String} : ofString a = ofString b ↔ a = b :=
  ⟨fun same => String.ext (List.map_injective_iff.mpr (fun _ _ h => PyChar.char.inj h) same),
    congrArg ofString⟩

@[simp] theorem encodable_ofString (s : String) : Encodable (ofString s) := by
  simp [Encodable, ofString, PyChar.isSurrogate]

@[simp] theorem encodable_append {s s' : PyStr} :
    Encodable (s ++ s') ↔ Encodable s ∧ Encodable s' := by
  simp only [Encodable, List.mem_append]
  exact ⟨fun all => ⟨fun c mem => all c (.inl mem), fun c mem => all c (.inr mem)⟩,
    fun ⟨left, right⟩ c mem => mem.elim (left c) (right c)⟩

end PyStr

/-- A Python `dict[str, str]`. Iteration order is insertion order, and the
structure carries the fact that no key occurs twice. -/
structure PyDict where
  items : List (PyStr × PyStr)
  nodup : (items.map Prod.fst).Nodup
  deriving DecidableEq

/-! ### Binding in `Except`

The modelled functions that can raise are written in `Except PyError`; these
equations let `simp` run them forward once a step is known to succeed or fail, and
say when a chain of steps succeeds. -/

@[simp] theorem except_ok_bind {ε α β : Type} (a : α) (f : α → Except ε β) :
    (Except.ok a >>= f) = f a := rfl

@[simp] theorem except_error_bind {ε α β : Type} (err : ε) (f : α → Except ε β) :
    (Except.error err >>= f : Except ε β) = .error err := rfl

theorem except_bind_eq_ok {ε α β : Type} {x : Except ε α} {f : α → Except ε β} {b : β} :
    x >>= f = .ok b ↔ ∃ a, x = .ok a ∧ f a = .ok b := by
  cases x <;> simp

theorem except_isOk_bind {ε α β : Type} {x : Except ε α} {f : α → Except ε β} :
    (x >>= f).isOk ↔ ∃ a, x = .ok a ∧ (f a).isOk := by
  cases x <;> simp [Except.isOk, Except.toBool]

theorem except_exists_eq_ok {ε α : Type} {x : Except ε α} : (∃ a, x = .ok a) ↔ x.isOk := by
  cases x <;> simp [Except.isOk, Except.toBool]

@[simp] theorem except_isOk_pure {ε α : Type} (a : α) : (pure a : Except ε α).isOk := rfl

section Assign

variable {α β γ : Type} [DecidableEq α]

/-! ### Assignment on the items of any dict

Dicts of other key types than `str` occur once, in configuration loading; `assign`
is their `d[key] = value`, and `PyDict.setItem` is it on `str` keys. -/

/-- `d[key] = value` on the items of a dict with keys of any type: a key already
present keeps its place and takes the new value, a new key goes last. -/
def assign (items : List (α × β)) (key : α) (value : β) : List (α × β) :=
  if key ∈ items.map Prod.fst then
    items.map fun item => (item.1, if item.1 = key then value else item.2)
  else items ++ [(key, value)]

theorem lookup_eq_none_of_not_mem {items : List (α × β)} {k : α}
    (absent : k ∉ items.map Prod.fst) :
    items.lookup k = none := by
  induction items with
  | nil => rfl
  | cons item rest ih =>
    obtain ⟨a, b⟩ := item
    simp only [List.map_cons, List.mem_cons, not_or] at absent
    have differ : (k == a) = false := by simpa using absent.1
    simp [List.lookup_cons, differ, ih absent.2]

theorem lookup_isSome_of_mem {items : List (α × β)} {k : α} (present : k ∈ items.map Prod.fst) :
    (items.lookup k).isSome := by
  induction items with
  | nil => simp at present
  | cons item rest ih =>
    obtain ⟨a, b⟩ := item
    by_cases same : k = a
    · simp [List.lookup_cons, same]
    · have differ : (k == a) = false := by simpa using same
      simp only [List.map_cons, List.mem_cons, same, false_or] at present
      simpa [List.lookup_cons, differ] using ih present

private theorem lookup_map_overwrite (items : List (α × β)) (key k : α) (value : β) :
    (items.map fun item => (item.1, if item.1 = key then value else item.2)).lookup k =
      if k = key then (items.lookup k).map fun _ => value else items.lookup k := by
  induction items with
  | nil => split <;> rfl
  | cons item rest ih =>
    obtain ⟨a, b⟩ := item
    by_cases same : k = a
    · subst same
      by_cases hit : k = key <;> simp [List.lookup_cons, hit]
    · have differ : (k == a) = false := by simpa using same
      simp [List.lookup_cons, differ, ih]

@[simp] theorem lookup_assign (items : List (α × β)) (key k : α) (value : β) :
    (assign items key value).lookup k = if k = key then some value else items.lookup k := by
  unfold assign
  split
  · rename_i present
    rw [lookup_map_overwrite]
    split
    · subst k
      obtain ⟨found, eq⟩ := Option.isSome_iff_exists.mp (lookup_isSome_of_mem present)
      simp [eq]
    · rfl
  · rename_i absent
    rw [List.lookup_append]
    split
    · subst k
      simp [lookup_eq_none_of_not_mem absent, List.lookup_cons]
    · rename_i differ
      have miss : (k == key) = false := by simpa using differ
      simp [List.lookup_cons, miss]

theorem lookup_filter_fst (p : α → Bool) (l : List (α × β)) (k : α) :
    (l.filter fun item => p item.1).lookup k = if p k then l.lookup k else none := by
  induction l with
  | nil => split <;> rfl
  | cons item rest ih =>
    obtain ⟨a, b⟩ := item
    by_cases same : k = a
    · subst same
      by_cases keep : p k <;> simp [List.filter_cons, List.lookup_cons, keep, ih]
    · have differ : (k == a) = false := by simpa using same
      by_cases keep : p a <;> simp [List.filter_cons, List.lookup_cons, keep, differ, ih]

/-- In a list with no key twice, a key's entry is the one a lookup finds. -/
theorem lookup_map_of_mem {l : List (α × β)} (nodup : (l.map Prod.fst).Nodup) {x : α × β}
    (mem : x ∈ l) (g : α × β → γ) : (l.map fun f => (f.1, g f)).lookup x.1 = some (g x) := by
  induction l with
  | nil => simp at mem
  | cons y rest ih =>
    rw [List.map_cons, List.nodup_cons] at nodup
    rcases List.mem_cons.mp mem with rfl | later
    · simp [List.lookup_cons]
    · have differ : (x.1 == y.1) = false :=
        beq_false_of_ne fun same => nodup.1 (same ▸ List.mem_map_of_mem Prod.fst later)
      simp [List.lookup_cons, differ, ih nodup.2 later]

theorem keys_assign_of_mem {items : List (α × β)} {key : α} (present : key ∈ items.map Prod.fst)
    (value : β) : (assign items key value).map Prod.fst = items.map Prod.fst := by
  simp [assign, present, Function.comp_def]

/-- Assigning every item under its renamed key, in order, leaves under a key the
value of the last item renamed to it, or what was there before when none is. -/
theorem lookup_foldl_assign (rename : γ → α) (k : α) (items : List (γ × β))
    (start : List (α × β)) :
    (items.foldl (fun mapped item => assign mapped (rename item.1) item.2) start).lookup k =
      (((items.filter fun item => rename item.1 = k).getLast?).map Prod.snd).or (start.lookup k) := by
  induction items generalizing start with
  | nil => rfl
  | cons item rest ih =>
    rw [List.foldl_cons, ih, lookup_assign, List.filter_cons]
    by_cases hit : rename item.1 = k
    · simp only [hit, decide_True, if_true, List.getLast?_cons]
      cases (rest.filter fun item => decide (rename item.1 = k)).getLast? <;> rfl
    · simp [hit, Ne.symm hit]

end Assign

namespace PyDict

variable {d : PyDict} {key key' value default : PyStr}

/-- `list(d.keys())`. -/
def keys (d : PyDict) : List PyStr := d.items.map Prod.fst

/-- `{}`. -/
def empty : PyDict := ⟨[], List.nodup_nil⟩

/-- `key in d`. -/
def contains (d : PyDict) (key : PyStr) : Bool := d.keys.contains key

/-- `d.get(key, default)`. -/
def get (d : PyDict) (key default : PyStr) : PyStr := (d.items.lookup key).getD default

/-- Overwrite the value of `key` where it stands. -/
private def overwrite (key value : PyStr) (item : PyStr × PyStr) : PyStr × PyStr :=
  (item.1, if item.1 = key then value else item.2)

private theorem keys_map_overwrite (items : List (PyStr × PyStr)) :
    (items.map (overwrite key value)).map Prod.fst = items.map Prod.fst := by
  simp [overwrite, Function.comp_def]

/-- `d[key] = value`. A key already present keeps its position and takes the new
value; a new key is appended. -/
def setItem (d : PyDict) (key value : PyStr) : PyDict :=
  if present : key ∈ d.keys then
    ⟨d.items.map (overwrite key value), by rw [keys_map_overwrite]; exact d.nodup⟩
  else
    ⟨d.items ++ [(key, value)], by
      rw [List.map_append, List.nodup_append]
      exact ⟨d.nodup, List.nodup_singleton _, by simpa [keys] using present⟩⟩

theorem items_setItem : (d.setItem key value).items = assign d.items key value := by
  unfold setItem assign
  split <;> rename_i present <;> simp only [keys] at present <;> simp only [present] <;> rfl

/-- Assigning items in turn, each under a renamed key, is `assign` on the items. -/
theorem items_foldl_setItem (rename : PyStr → PyStr) :
    ∀ (items : List (PyStr × PyStr)) (d : PyDict),
      (items.foldl (fun d item => d.setItem (rename item.1) item.2) d).items =
        items.foldl (fun l item => assign l (rename item.1) item.2) d.items
  | [], _ => rfl
  | item :: rest, d => by
    rw [List.foldl_cons, items_foldl_setItem rename rest, items_setItem]
    rfl

@[simp] theorem keys_empty : empty.keys = [] := rfl

@[simp] theorem contains_iff : d.contains key = true ↔ key ∈ d.keys := by
  simp [contains]

theorem keys_nodup (d : PyDict) : d.keys.Nodup := d.nodup

theorem keys_setItem_of_mem (present : key ∈ d.keys) : (d.setItem key value).keys = d.keys := by
  rw [setItem, dif_pos present]
  exact keys_map_overwrite _

theorem keys_setItem_of_not_mem (absent : key ∉ d.keys) :
    (d.setItem key value).keys = d.keys ++ [key] := by
  rw [setItem, dif_neg absent]
  simp [keys]

theorem mem_keys_setItem : key' ∈ (d.setItem key value).keys ↔ key' = key ∨ key' ∈ d.keys := by
  by_cases present : key ∈ d.keys
  · rw [keys_setItem_of_mem present]
    constructor
    · exact Or.inr
    · rintro (rfl | h) <;> assumption
  · simp [keys_setItem_of_not_mem present, or_comm]

private theorem mem_lookup_getD (items : List (PyStr × PyStr))
    (present : key ∈ items.map Prod.fst) :
    (key, (items.lookup key).getD default) ∈ items := by
  induction items with
  | nil => simp at present
  | cons item rest ih =>
    obtain ⟨k, v⟩ := item
    by_cases same : key = k
    · subst same; simp [List.lookup_cons]
    · have differ : (key == k) = false := by simpa using same
      have later : key ∈ rest.map Prod.fst := by simpa [same] using present
      simp [List.lookup_cons, differ, ih later]

/-- A key of the dict is stored with the value `get` returns for it. -/
theorem mem_items_get (present : key ∈ d.keys) : (key, d.get key default) ∈ d.items :=
  mem_lookup_getD d.items present

private theorem lookup_of_not_mem (items : List (PyStr × PyStr))
    (absent : key ∉ items.map Prod.fst) :
    items.lookup key = none := by
  induction items with
  | nil => rfl
  | cons item rest ih =>
    obtain ⟨k, v⟩ := item
    have differ : (key == k) = false := by simp_all
    simp only [List.map_cons, List.mem_cons, not_or] at absent
    simp [List.lookup_cons, differ, ih absent.2]

/-- A key the dict does not hold gets the default. -/
theorem get_of_not_mem (absent : key ∉ d.keys) : d.get key default = default := by
  simp [get, lookup_of_not_mem d.items absent]

theorem items_setItem_of_not_mem (absent : key ∉ d.keys) :
    (d.setItem key value).items = d.items ++ [(key, value)] := by
  rw [setItem, dif_neg absent]

/-- After `d[key] = value` the dict holds that item. -/
theorem mem_items_setItem_self : (key, value) ∈ (d.setItem key value).items := by
  by_cases present : key ∈ d.keys
  · rw [setItem, dif_pos present]
    obtain ⟨item, mem, rfl⟩ := List.mem_map.mp present
    exact List.mem_map.mpr ⟨item, mem, by simp [overwrite]⟩
  · simp [items_setItem_of_not_mem present]

/-- An item of the dict is what `get` returns for its key. -/
theorem get_of_mem (mem : (key, value) ∈ d.items) : d.get key default = value := by
  have stored : (key, d.get key default) ∈ d.items := mem_items_get (List.mem_map_of_mem Prod.fst mem)
  exact (Prod.mk.inj (List.inj_on_of_nodup_map d.nodup stored mem rfl)).2

/-- Assigning a key the leading items do not hold leaves them in front. -/
theorem isPrefix_setItem {start : List (PyStr × PyStr)} (within : start <+: d.items)
    (outside : key ∉ start.map Prod.fst) : start <+: (d.setItem key value).items := by
  unfold setItem
  split
  · have keep : start.map (overwrite key value) = start := by
      conv_rhs => rw [← List.map_id start]
      exact List.map_congr_left fun item mem => by
        have differ : item.1 ≠ key := fun same => outside (same ▸ List.mem_map_of_mem _ mem)
        simp [overwrite, differ]
    obtain ⟨rest, whole⟩ := within
    exact ⟨rest.map (overwrite key value), by rw [← keep, ← List.map_append, whole]⟩
  · exact within.trans ⟨[(key, value)], rfl⟩

/-- After `d[key] = value` each item is the new one or was already there. -/
theorem mem_items_setItem {item : PyStr × PyStr} (mem : item ∈ (d.setItem key value).items) :
    item = (key, value) ∨ item ∈ d.items := by
  unfold setItem at mem
  split at mem
  · obtain ⟨orig, inD, rfl⟩ := List.mem_map.mp mem
    by_cases same : orig.1 = key
    · exact .inl (by simp [overwrite, same])
    · exact .inr (by simpa [overwrite, same] using inD)
  · simp only [List.mem_append, List.mem_singleton] at mem
    exact mem.symm

end PyDict

end ScfLog
