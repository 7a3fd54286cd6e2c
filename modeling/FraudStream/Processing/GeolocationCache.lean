import FraudStream.Library.LruCache
import FraudStream.Processing.Geolocation

/-
  The geolocation operator with its cache of lookups.

  The operator keeps the result of each lookup, a failed one
  too, in a cache of ten thousand subnets. The reader of the
  location database may answer each call differently, so it
  comes with each input. A lookup never raises.

  Key definitions include:
    * `GeolocationMapFunction`
    * `GeolocationMapFunction.map`
    * `GeolocationMapFunction.emitted`
    * `GeolocationMapFunction.asks`

  Main results:
    * `GeolocationMapFunction.cached_map_is_stateless_map`
    * `GeolocationMapFunction.lookup_result_is_kept`
-/

------------------------------------------------------------
-- The Operator
------------------------------------------------------------

namespace FraudStream

/- What reaches the operator, and how the reader would answer
   at that moment. -/
structure GeoInput where
  txn : RawTransaction
  velocity : Velocity.Velocities
  city : GeoReader

def GeoInput.subnet (input : GeoInput) : String :=
  input.txn.callerIpSubnet

/- `lru_cache(maxsize=10_000)` -/
def lookupCacheSize : Nat := 10000

structure GeolocationMapFunction where
  hasReader : Bool
  lookups : LruCache String GeoFields lookupCacheSize

namespace GeolocationMapFunction

/- `open`, with whether the database was found. -/
def opened (hasReader : Bool) : GeolocationMapFunction where
  hasReader := hasReader
  lookups := LruCache.empty

/- `_do_lookup` of the operator's reader. -/
def lookup
    (op : GeolocationMapFunction)
    (input : GeoInput) : GeoFields :=
  doLookup
    (if op.hasReader then some input.city else none)
    input.subnet

/- The lookup of the subnet is not in the cache. -/
def asks
    (op : GeolocationMapFunction)
    (input : GeoInput) : Bool :=
  (op.lookups.get? input.subnet).isNone

/- The operator after an input. -/
def next
    (op : GeolocationMapFunction)
    (input : GeoInput) : GeolocationMapFunction :=
  { op with
    lookups := op.lookups.access input.subnet (op.lookup input) }

def map
    (op : GeolocationMapFunction)
    (input : GeoInput) : GeoEnriched where
  txn := input.txn
  velocity := input.velocity
  geo := op.lookups.answer input.subnet (op.lookup input)

/- The operator after some inputs. -/
def after
    (op : GeolocationMapFunction)
    (inputs : List GeoInput) : GeolocationMapFunction :=
  inputs.foldl next op

/- What the operator emits for some inputs. -/
def emitted
    (op : GeolocationMapFunction) :
    List GeoInput → List GeoEnriched
| [] => []
| input :: inputs =>
    op.map input :: (op.next input).emitted inputs

end GeolocationMapFunction

end FraudStream

------------------------------------------------------------
-- The Cache Of A Run
------------------------------------------------------------

namespace FraudStream

namespace GeolocationMapFunction

/- The accesses that inputs make. -/
def accesses
    (op : GeolocationMapFunction)
    (inputs : List GeoInput) : List (String × GeoFields) :=
  inputs.map (fun input => (input.subnet, op.lookup input))

@[simp] theorem lookup_next
    (op : GeolocationMapFunction)
    (input other : GeoInput) :
    (op.next input).lookup other = op.lookup other :=
  rfl

@[simp] theorem lookup_after
    (op : GeolocationMapFunction)
    (inputs : List GeoInput)
    (other : GeoInput) :
    (op.after inputs).lookup other = op.lookup other := by
  induction inputs generalizing op with
  | nil => rfl
  | cons input inputs ih =>
      exact (ih (op.next input)).trans (lookup_next ..)

theorem lookups_after
    (op : GeolocationMapFunction)
    (inputs : List GeoInput) :
    (op.after inputs).lookups =
      op.lookups.after (op.accesses inputs) := by
  induction inputs generalizing op with
  | nil => rfl
  | cons input inputs ih => exact ih (op.next input)

theorem keys_accesses
    (op : GeolocationMapFunction)
    (inputs : List GeoInput) :
    (op.accesses inputs).map Prod.fst =
      inputs.map GeoInput.subnet := by
  rw [accesses, List.map_map]
  rfl

theorem length_emitted
    (op : GeolocationMapFunction)
    (inputs : List GeoInput) :
    (op.emitted inputs).length = inputs.length := by
  induction inputs generalizing op with
  | nil => rfl
  | cons input inputs ih =>
      rw [emitted, List.length_cons, ih, List.length_cons]

theorem emitted_append
    (op : GeolocationMapFunction)
    (inputs more : List GeoInput) :
    op.emitted (inputs ++ more) =
      op.emitted inputs ++ (op.after inputs).emitted more := by
  induction inputs generalizing op with
  | nil => rfl
  | cons input inputs ih =>
      rw [List.cons_append, emitted, emitted, ih,
        List.cons_append]
      rfl

/- What is emitted for an input between others. -/
theorem emitted_getElem?
    (op : GeolocationMapFunction)
    (before : List GeoInput)
    (input : GeoInput)
    (behind : List GeoInput) :
    (op.emitted (before ++ input :: behind))[before.length]? =
      some ((op.after before).map input) := by
  have hHere :
      before.length = (op.emitted before).length + 0 :=
    (length_emitted op before).symm
  rw [emitted_append, hHere, List.getElem?_append_right
    (Nat.le_add_right _ _), Nat.add_sub_cancel_left]
  rfl

end GeolocationMapFunction

end FraudStream

------------------------------------------------------------
-- The Cached And The Stateless Map
------------------------------------------------------------

namespace FraudStream

namespace GeolocationMapFunction

/- Under a reader that does not change, each answer is the
   lookup. -/
theorem answer_of_steady
    {hasReader : Bool}
    {reader : GeoReader}
    {before : List GeoInput}
    (hSteady : ∀ input ∈ before, input.city = reader)
    {input : GeoInput}
    (hInput : input.city = reader) :
    ((opened hasReader).after before).map input =
      geolocationMap
        (if hasReader then some reader else none)
        input.txn input.velocity := by
  have hGiven :
      ∀ entry ∈ (opened hasReader).accesses before,
        entry.2 =
          doLookup
            (if hasReader then some reader else none)
            entry.1 := by
    intro entry hMem
    obtain ⟨other, hOther, rfl⟩ := List.mem_map.1 hMem
    rw [lookup, hSteady other hOther]
    rfl
  have hHere :
      (opened hasReader).lookup input =
        doLookup
          (if hasReader then some reader else none)
          input.subnet := by
    rw [lookup, hInput]
    rfl
  have hAnswer :
      ((LruCache.empty :
            LruCache String GeoFields lookupCacheSize).after
          ((opened hasReader).accesses before)).answer
            input.subnet ((opened hasReader).lookup input) =
        doLookup
          (if hasReader then some reader else none)
          input.subnet :=
    LruCache.answer_of_given
      (P := fun subnet fields =>
        fields =
          doLookup
            (if hasReader then some reader else none) subnet)
      hGiven hHere
  rw [map, geolocationMap, lookups_after, lookup_after]
  congr 1

/- The subnets that are looked up in the database are those
   that are not among the last ones. -/
theorem asks_after_iff
    (hasReader : Bool)
    (before : List GeoInput)
    (input : GeoInput) :
    ((opened hasReader).after before).asks input = true ↔
      input.subnet ∉
        (LruCache.recency (before.map GeoInput.subnet)).take
          lookupCacheSize := by
  rw [asks, Option.isNone_iff_eq_none, lookups_after,
    opened, LruCache.get?_after, keys_accesses]

/- The cache does not show in what is emitted while the
   reader does not change, and the database is only asked for
   a subnet that is not among the ten thousand used last. -/
theorem cached_map_is_stateless_map
    (hasReader : Bool)
    (reader : GeoReader)
    (inputs : List GeoInput)
    (hSteady : ∀ input ∈ inputs, input.city = reader) :
    (opened hasReader).emitted inputs =
        inputs.map
          (fun input =>
            geolocationMap
              (if hasReader then some reader else none)
              input.txn input.velocity) ∧
      ∀ before input behind,
        inputs = before ++ input :: behind →
          (((opened hasReader).after before).asks input =
              true ↔
            input.subnet ∉
              (LruCache.recency
                (before.map GeoInput.subnet)).take
                lookupCacheSize) := by
  refine ⟨?_, fun before input behind _ =>
    asks_after_iff hasReader before input⟩
  induction inputs using List.reverseRecOn with
  | nil => rfl
  | append_singleton before input ih =>
      have hBefore :
          ∀ other ∈ before, other.city = reader := by
        intro other hMem
        exact hSteady other (List.mem_append_left _ hMem)
      have hInput : input.city = reader :=
        hSteady input
          (List.mem_append_right _ List.mem_cons_self)
      rw [emitted_append, ih hBefore, List.map_append,
        emitted, answer_of_steady hBefore hInput]
      rfl

end GeolocationMapFunction

end FraudStream

------------------------------------------------------------
-- Results That Stay
------------------------------------------------------------

namespace FraudStream

namespace GeolocationMapFunction

theorem answer_kept
    (op : GeolocationMapFunction)
    (first : GeoInput)
    (between : List GeoInput)
    (second : GeoInput)
    (hSame : second.subnet = first.subnet)
    (hFew :
      ((between.map GeoInput.subnet).filter
        (fun s => s ≠ first.subnet)).dedup.length <
          lookupCacheSize) :
    (((op.next first).after between).map second).geo =
      (op.map first).geo := by
  rw [← keys_accesses (op.next first) between] at hFew
  have hHeld :=
    LruCache.get?_after_of_few op.lookups first.subnet
      (op.lookup first) hFew
  rw [map, map, lookups_after, LruCache.answer, hSame]
  change
    (((op.lookups.access first.subnet (op.lookup first)).after
      ((op.next first).accesses between)).get?
        first.subnet).getD _ = _
  rw [hHeld, Option.getD_some]

/- A location that was found, or not found, is emitted again
   for its subnet until ten thousand other subnets came, no
   matter how the reader answers by then. -/
theorem lookup_result_is_kept
    (hasReader : Bool)
    (before : List GeoInput)
    (first : GeoInput)
    (between : List GeoInput)
    (second : GeoInput)
    (behind : List GeoInput)
    (hSame : second.subnet = first.subnet)
    (hFew :
      ((between.map GeoInput.subnet).filter
        (fun s => s ≠ first.subnet)).dedup.length <
          lookupCacheSize) :
    let emitted :=
      (opened hasReader).emitted
        (before ++ first :: (between ++ second :: behind))
    (emitted[before.length + 1 + between.length]?).map
        GeoEnriched.geo =
      (emitted[before.length]?).map GeoEnriched.geo := by
  intro emitted
  have hFirst :
      emitted[before.length]? =
        some (((opened hasReader).after before).map first) :=
    emitted_getElem? _ before first _
  have hSecond :
      emitted[before.length + 1 + between.length]? =
        some
          (((opened hasReader).after
            (before ++ first :: between)).map second) := by
    have hAt :=
      emitted_getElem? (opened hasReader)
        (before ++ first :: between) second behind
    rw [List.append_assoc, List.cons_append,
      List.length_append, List.length_cons] at hAt
    rw [← hAt]
    congr 1
    omega
  rw [hFirst, hSecond, Option.map_some, Option.map_some,
    after, List.foldl_append, List.foldl_cons]
  congr 1
  exact answer_kept _ first between second hSame hFew

def locatedTransaction : RawTransaction where
  transactionId := "t-1"
  accountId := "a-1"
  merchantId := "m-1"
  amount := 10
  currency := "EUR"
  eventTime := 1700000000000
  processingTime := 1700000000005
  channel := "api"
  cardBin := "411111"
  cardLast4 := "1111"
  callerIpSubnet := "203.0.113.0"
  apiKeyId := "k-1"
  oauthScope := "txn:write"
  geoLat := none
  geoLon := none
  maskingLibVersion := "1.0.0"

/- The transaction, at a reader that knows every address or
   none. -/
def locatedInput (isKnown : Bool) : GeoInput where
  txn := locatedTransaction
  velocity := fun _ => (1, 10)
  city := fun _ =>
    if isKnown then some (some "DE", some "Berlin") else none

theorem cached_map_of_one_subnet :
    (opened true).emitted
        [locatedInput true, locatedInput true] =
      [locatedInput true, locatedInput true].map
        (fun input =>
          geolocationMap
            (some (locatedInput true).city)
            input.txn input.velocity) := by
  refine
    (cached_map_is_stateless_map true
      (locatedInput true).city
      [locatedInput true, locatedInput true] ?_).1
  intro input hMem
  rcases List.mem_cons.1 hMem with rfl | hRest
  · rfl
  · rw [List.mem_singleton.1 hRest]

/- The reader does not know the address any more. -/
theorem lookup_result_kept_once :
    let emitted :=
      (opened true).emitted
        [locatedInput true, locatedInput false]
    (emitted[1]?).map GeoEnriched.geo =
      (emitted[0]?).map GeoEnriched.geo :=
  lookup_result_is_kept true [] (locatedInput true) []
    (locatedInput false) [] rfl (by decide)

end GeolocationMapFunction

end FraudStream
