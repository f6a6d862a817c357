import Rustflow.Lib.Table
import Mathlib.Data.UInt

/-!
# The template cache

`common/template_cache.rs`: the templates of one exporter, by observation domain and template
ID, under a budget of fields and an expiry.

The clock is an argument of every operation that reads it. `Instant` and `Duration` count
nanoseconds from an arbitrary origin, without an upper bound.
-/

namespace Rustflow

abbrev Instant : Type := Nat
abbrev Duration : Type := Nat

/-- Fields one cache may hold across all its templates. -/
def MAX_TEMPLATE_FIELDS : Nat := 65536

/-- A template's observation domain (the source ID in NetFlow v9) and ID. -/
abbrev TemplateKey : Type := UInt32 × UInt16

namespace TemplateCache

structure Entry (F : Type) where
  fields : List F
  sentAt : Instant
  deriving DecidableEq

end TemplateCache

open TemplateCache (Entry)

structure TemplateCache (F : Type) where
  domains : Table UInt32 (Table UInt16 (Entry F))
  timeout : Duration
  /-- Fields of every entry, expired ones included. -/
  fields : Nat
  nextSweep : Instant
  /-- The earliest an entry can expire: a sweep before then frees nothing. -/
  nextExpiry : Option Instant
  /-- A template was refused since the last new one was stored. -/
  refusing : Bool

namespace TemplateCache
variable {F : Type}

/-- An empty cache, made at `now`. The sum of a clock reading and the timeout is taken to be
representable; the standard library panics where it is not. -/
def new (timeout : Duration) (now : Instant) : TemplateCache F where
  domains := ∅
  timeout := timeout
  fields := 0
  nextSweep := now + timeout
  nextExpiry := none
  refusing := false

/-- The stored entry of a key, expired or not. -/
def find (cache : TemplateCache F) (key : TemplateKey) : Option (Entry F) :=
  (cache.domains.lookup key.1).bind fun templates => templates.lookup key.2

def get (cache : TemplateCache F) (now : Instant) (key : TemplateKey) : Option (List F) :=
  ((cache.find key).filter fun entry => now - entry.sentAt < cache.timeout).map Entry.fields

/-- The entries of every domain. -/
def entries (cache : TemplateCache F) : List (Entry F) := cache.domains.values.flatMap Table.values

def fits (cache : TemplateCache F) (key : TemplateKey) (fields : List F) : Bool :=
  let replaced := ((cache.find key).map fun entry => entry.fields.length).getD 0
  cache.fields - replaced + fields.length ≤ MAX_TEMPLATE_FIELDS

/-- Drops every expired entry, and the domains left empty. -/
def removeExpired (cache : TemplateCache F) (now : Instant) : TemplateCache F :=
  let domains := Table.filterMapValues (fun _ templates =>
    let kept := Table.filterMapValues (fun _ (entry : Entry F) =>
      if now - entry.sentAt < cache.timeout then some entry else none) templates
    if kept.entries.isEmpty then none else some kept) cache.domains
  let entries := { cache with domains }.entries
  { cache with
    domains
    fields := (entries.map fun entry => entry.fields.length).sum
    nextExpiry := (entries.map fun entry => entry.sentAt + cache.timeout).min?
    nextSweep := now + cache.timeout }

def remove (cache : TemplateCache F) (key : TemplateKey) : TemplateCache F :=
  match cache.domains.lookup key.1 with
  | none => cache
  | some templates =>
    let fields := match templates.lookup key.2 with
      | some entry => cache.fields - entry.fields.length
      | none => cache.fields
    let templates := templates.erase key.2
    { cache with
      fields
      domains := if templates.entries.isEmpty then cache.domains.erase key.1
        else cache.domains.insert key.1 templates }

/-- Logs the refusal (a warning for the first in a row) and drops the template redefined. -/
def refuse (cache : TemplateCache F) (key : TemplateKey) : TemplateCache F :=
  { cache with refusing := true }.remove key

/-- Stores a template that is known to fit. As in `new`, `now + timeout` is taken to be
representable. -/
def store (cache : TemplateCache F) (now : Instant) (key : TemplateKey) (fields : List F) :
    TemplateCache F :=
  let templates := (cache.domains.lookup key.1).getD ∅
  let total := cache.fields + fields.length
  let expiry := now + cache.timeout
  { cache with
    domains := cache.domains.insert key.1 (templates.insert key.2 { fields, sentAt := now })
    fields := match templates.lookup key.2 with
      | some replaced => total - replaced.fields.length
      | none => total
    refusing := match templates.lookup key.2 with
      | some _ => cache.refusing
      | none => false
    nextExpiry := some ((cache.nextExpiry.map fun next => min next expiry).getD expiry) }

/-- Stores or refreshes a template, unless that would take the cache past the budget. -/
def insert (cache : TemplateCache F) (now : Instant) (key : TemplateKey) (fields : List F) :
    TemplateCache F :=
  let cache := if now ≥ cache.nextSweep then cache.removeExpired now else cache
  if cache.fits key fields then cache.store now key fields
  else
    let cache := if cache.nextExpiry.any (now ≥ ·) then cache.removeExpired now else cache
    if cache.fits key fields then cache.store now key fields else cache.refuse key

/-- Withdraws every template of `domain`. -/
def removeDomain (cache : TemplateCache F) (domain : UInt32) : TemplateCache F :=
  match cache.domains.lookup domain with
  | none => cache
  | some templates =>
    { cache with
      domains := cache.domains.erase domain
      fields := cache.fields - (templates.values.map fun entry => entry.fields.length).sum }

/-- Replaces the fields of every template of `domain` with what `resolve` makes of them,
keeping when each was sent. -/
def refreshDomain (cache : TemplateCache F) (domain : UInt32) (resolve : List F → List F) :
    TemplateCache F :=
  match cache.domains.lookup domain with
  | none => cache
  | some templates =>
    { cache with
      fields := templates.values.foldl
        (fun fields entry => fields - entry.fields.length + (resolve entry.fields).length)
        cache.fields
      domains := cache.domains.insert domain
        (Table.filterMapValues (fun _ entry => some { entry with fields := resolve entry.fields })
          templates) }

end TemplateCache

end Rustflow
