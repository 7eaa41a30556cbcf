import SqlQuery.Value.Json

/-!
A cache of query results that are fresh for a limited time.

An entry is found by a digest of the SQL and its bindings. It is fresh as long as its expiry lies
ahead of the clock; a stale entry answers nothing and stays until it is swept away or replaced. The
clock is an argument of every operation, so a cache is a plain value over any type of time.
-/

namespace SqlQuery

def digestOf (v : Value) : String :=
  match v.writeJson .keyed with
  | .ok json => Text.Sha256.digest json.toUTF8.data.toList
  | .error typeName => typeName

/-- The key of a statement: a digest of its SQL and its bindings. -/
def cacheKey (sql : String) (bindings : List Value) : String :=
  digestOf (.list [.text sql, .list bindings])

/-- Rows and the time when they become stale. -/
structure CacheEntry (τ : Type) where
  rows : List Row
  expiresAt : τ
  deriving Repr

/-- Cached results, and how often they were of use. -/
structure Cache (τ : Type) where
  ttl : τ
  entries : List (String × CacheEntry τ) := []
  hits : Nat := 0
  misses : Nat := 0
  expired : Nat := 0
  deriving Repr

namespace Cache

variable {τ : Type}

/-- The rows under a key, if they are fresh. -/
def fresh? [LT τ] [DecidableLT τ] (c : Cache τ) (now : τ) (key : String) : Option (List Row) :=
  match c.entries.lookup key with
  | some e => if now < e.expiresAt then some e.rows else none
  | none => none

/-- Looks a key up and counts the attempt. -/
def getKey [LT τ] [DecidableLT τ] (c : Cache τ) (now : τ) (key : String) :
    Option (List Row) × Cache τ :=
  match c.fresh? now key with
  | some rows => (some rows, { c with hits := c.hits + 1 })
  | none => (none, { c with misses := c.misses + 1 })

/-- Looks a statement up and counts the attempt. -/
def get [LT τ] [DecidableLT τ] (c : Cache τ) (now : τ) (sql : String) (bindings : List Value) :
    Option (List Row) × Cache τ :=
  c.getKey now (cacheKey sql bindings)

def without (key : String) (entries : List (String × CacheEntry τ)) :
    List (String × CacheEntry τ) :=
  entries.filter (·.1 != key)

def setKey [Add τ] (c : Cache τ) (now : τ) (key : String) (rows : List Row) : Cache τ :=
  { c with entries := (key, { rows, expiresAt := now + c.ttl }) :: without key c.entries }

/-- Stores the rows of a statement. -/
def set [Add τ] (c : Cache τ) (now : τ) (sql : String) (bindings : List Value)
    (rows : List Row) : Cache τ :=
  c.setKey now (cacheKey sql bindings) rows

def deleteKey (c : Cache τ) (key : String) : Cache τ :=
  { c with entries := without key c.entries }

def delete (c : Cache τ) (sql : String) (bindings : List Value) : Cache τ :=
  c.deleteKey (cacheKey sql bindings)

/-- Forgets everything. The counters stay. -/
def clear (c : Cache τ) : Cache τ :=
  { c with entries := [] }

/-- Removes the entries whose expiry does not lie ahead and counts them. -/
def sweep [LE τ] [DecidableLE τ] (c : Cache τ) (now : τ) : Nat × Cache τ :=
  let kept := c.entries.filter fun (_, e) => !decide (e.expiresAt ≤ now)
  let removed := c.entries.length - kept.length
  (removed, { c with entries := kept, expired := c.expired + removed })

end Cache

end SqlQuery
