import Rowbind.Step

/-!
# The cache of prepared statements

A cache keeps a bounded number of prepared statements, the most recently asked for. An **entry**
stands for one text; its statement is there once it has been prepared. An entry is **held** as long
as it can be found, under a key computed from its text; texts may share a key, and an entry is taken
for a text only when it was made for that text.

Whoever asks for a statement becomes a **user** of its entry until released. An entry that makes
room for another, or is cleared away, is **evicted**: it is found no more, and **retires** when it
has no user. A retired entry's statement is to be closed, in the order in which entries retired.

Here are the cache's own moves, which call nobody; who prepares and closes statements, and when, is
the business of `Rowbind.StatementCache.Session`.
-/

namespace Rowbind

/-- **What the cache keeps for one text.** -/
structure CacheEntry (τ : Type) where
  number : Nat
  sql : String
  /-- The statement, once prepared. -/
  statement : Option τ := none
  users : Nat := 0
  evicted : Bool := false

/-- **A bounded cache of prepared statements.** -/
structure StatementCache (τ : Type) where
  capacity : Nat
  capacity_pos : 0 < capacity
  keyOf : String → UInt64
  /-- Every entry that is held, in use or retired. -/
  entries : List (CacheEntry τ) := []
  /-- The held entries' numbers by key, the most recent first. -/
  held : List (UInt64 × Nat) := []
  /-- The retired entries' numbers, the first one first. -/
  retired : List Nat := []
  /-- How many entries were ever made: the next entry's number. -/
  made : Nat := 0

namespace StatementCache

variable {τ : Type}

/-- An empty cache, none where nothing is to be kept. -/
def new? (capacity : Nat) (keyOf : String → UInt64) : Option (StatementCache τ) :=
  if h : 0 < capacity then some { capacity := capacity, capacity_pos := h, keyOf := keyOf }
  else none

/-- How many entries are held. -/
def size (c : StatementCache τ) : Nat := c.held.length

/-- The entry with a number. -/
def entryAt? (c : StatementCache τ) (n : Nat) : Option (CacheEntry τ) :=
  c.entries.find? (·.number == n)

/-- Changes the entry with a number. -/
def edit (n : Nat) (f : CacheEntry τ → CacheEntry τ) (c : StatementCache τ) : StatementCache τ :=
  { c with entries := c.entries.map fun e => if e.number = n then f e else e }

/-- Retires an entry if it is evicted and has no user. -/
def retireIfDone (n : Nat) (c : StatementCache τ) : StatementCache τ :=
  match c.entryAt? n with
  | some e => if e.evicted && e.users == 0 then { c with retired := c.retired ++ [n] } else c
  | none => c

/-- **Evicts an entry** that is held no more. -/
def evict (n : Nat) (c : StatementCache τ) : StatementCache τ :=
  (c.edit n fun e => { e with evicted := true }).retireIfDone n

/-- **Ends one use of an entry.** -/
def release (n : Nat) (c : StatementCache τ) : StatementCache τ :=
  (c.edit n fun e => { e with users := e.users - 1 }).retireIfDone n

/-- The held entry made for a text. -/
def find? (sql : String) (c : StatementCache τ) : Option Nat :=
  (c.held.lookup (c.keyOf sql)).filter fun n => (c.entryAt? n).any (·.sql == sql)

/-- Puts an entry in front of all held ones, in the place of one with its key. -/
def promote (key : UInt64) (n : Nat) (c : StatementCache τ) : StatementCache τ :=
  { c with held := (key, n) :: c.held.filter (·.1 ≠ key) }

/-- The held entry that a new one with a key is to replace: one with that key, or else, where there
is no room, the least recent. -/
def replaced? (key : UInt64) (c : StatementCache τ) : Option (UInt64 × Nat) :=
  match c.held.lookup key with
  | some n => some (key, n)
  | none => if c.held.length < c.capacity then none else c.held.getLast?

/-- **Makes an entry for a text**, and evicts the one it replaces. -/
def insert (sql : String) (c : StatementCache τ) : Nat × StatementCache τ :=
  let key := c.keyOf sql
  let n := c.made
  let out := c.replaced? key
  let made : StatementCache τ :=
    { c with
      entries := c.entries ++ [{ number := n, sql := sql }]
      held := (key, n) :: c.held.filter fun h => some h ≠ out
      made := n + 1 }
  (n, out.elim made fun h => made.evict h.2)

/-- **Begins the use of a text's entry**, which is made if none is held. -/
def checkOut (sql : String) (c : StatementCache τ) : Nat × StatementCache τ :=
  let (n, c) :=
    match c.find? sql with
    | some n => (n, c.promote (c.keyOf sql) n)
    | none => c.insert sql
  (n, c.edit n fun e => { e with users := e.users + 1 })

/-- **Gives an entry its statement.** -/
def fulfil (n : Nat) (t : τ) (c : StatementCache τ) : StatementCache τ :=
  c.edit n fun e => { e with statement := some t }

/-- The statement of an entry, once prepared. -/
def statement? (c : StatementCache τ) (n : Nat) : Option τ :=
  (c.entryAt? n).bind (·.statement)

/-- **Evicts every held entry**, the least recent first. -/
def evictAll (c : StatementCache τ) : StatementCache τ :=
  c.held.reverse.foldl (fun c h => c.evict h.2) { c with held := [] }

/-- **The statements to be closed**, in order, and the cache without their entries. -/
def takeRetired (c : StatementCache τ) : List τ × StatementCache τ :=
  (c.retired.filterMap c.statement?,
    { c with
      entries := c.entries.filter fun e => !c.retired.contains e.number
      retired := [] })

end StatementCache

end Rowbind
