import AiPlatform.Lib.Machine
import AiPlatform.Lib.Table
import AiPlatform.Lib.Text

set_option autoImplicit false

/- Two `S3ObjectGateway`s on one bucket. A listing under a name stays below the gateway's prefix and
its slash. A listing of everything asks for the prefix without the slash, and so for the keys of any
gateway whose prefix begins with the same letters. -/
namespace AiPlatform.Objects

open Machine

/-- `text.strip("/")`. -/
def stripSlashes (text : String) : String := Text.stripOf (fun letter => letter = '/') text

inductive Side
  | ours
  | theirs
deriving DecidableEq, Repr

/-- `side` is the gateway that stored the object. No operation reads it. -/
structure Object where
  key : String
  value : List UInt8
  side : Side
deriving DecidableEq

abbrev Bucket := Table Object.key

def startsWith (text start : String) : Bool := start.toList.isPrefixOf text.toList

def Bucket.matching (bucket : Bucket) (start : String) : List String :=
  (bucket.rows.map Object.key).filter fun key => startsWith key start

/-- `list_objects_v2`: keys that begin with the given text, and all of them when they fit in one
answer. -/
structure ListObjectsV2 where
  contents : Bucket → String → Nat → List String
  stored : ∀ bucket start maxKeys, ∀ key ∈ contents bucket start maxKeys,
    key ∈ bucket.matching start
  whole : ∀ bucket start maxKeys, (bucket.matching start).length ≤ min maxKeys 1000 →
    ∀ key ∈ bucket.matching start, key ∈ contents bucket start maxKeys

structure ValueError where
  text : String
deriving DecidableEq, Repr

/-- `prefix` is the attribute, without its outer slashes. -/
structure S3ObjectGateway where
  keyPrefix : String
deriving DecidableEq

namespace S3ObjectGateway

variable (gateway : S3ObjectGateway)

/-- `__init__`. -/
def init (keyPrefix : String) : S3ObjectGateway := ⟨stripSlashes keyPrefix⟩

/-- `_key`. -/
def key (name : String) : String :=
  let normalized := stripSlashes name
  if gateway.keyPrefix ≠ "" then gateway.keyPrefix ++ "/" ++ normalized else normalized

def put (side : Side) (bucket : Bucket) (name : String) (value : List UInt8) : Bucket :=
  bucket.put ⟨gateway.key name, value, side⟩

def get (bucket : Bucket) (name : String) : Option (List UInt8) :=
  (bucket.find (gateway.key name)).map Object.value

def delete (bucket : Bucket) (name : String) : Bucket := bucket.remove (gateway.key name)

/-- The `Prefix` of a listing. -/
def scopedPrefix (under : String) : String :=
  if under ≠ "" then gateway.key under else gateway.keyPrefix

def relative (key : String) : String :=
  let prefixLen := if gateway.keyPrefix ≠ "" then gateway.keyPrefix.length + 1 else 0
  String.ofList (key.toList.drop prefixLen)

def list (listing : ListObjectsV2) (bucket : Bucket) (under : String) (limit : Int) :
    Except ValueError (List String) :=
  if limit ≤ 0 then .error ⟨"limit must be positive"⟩
  else .ok ((listing.contents bucket (gateway.scopedPrefix under) limit.toNat).map gateway.relative)

end S3ObjectGateway

inductive Call
  | put (side : Side) (name : String) (value : List UInt8)
  | delete (side : Side) (name : String)

section Gateways

variable (ours theirs : S3ObjectGateway)

def gatewayOf : Side → S3ObjectGateway
  | .ours => ours
  | .theirs => theirs

def step (bucket : Bucket) : Call → Option Bucket
  | .put side name value => some ((gatewayOf ours theirs side).put side bucket name value)
  | .delete side name => some ((gatewayOf ours theirs side).delete bucket name)

/-- Neither prefix is the other or an ancestor of it. -/
def Apart : Prop :=
  ours.keyPrefix ≠ theirs.keyPrefix ∧
    startsWith theirs.keyPrefix (ours.keyPrefix ++ "/") = false ∧
    startsWith ours.keyPrefix (theirs.keyPrefix ++ "/") = false

instance : Decidable (Apart ours theirs) := inferInstanceAs (Decidable (_ ∧ _ ∧ _))

/-- Every object is under a key of the gateway that stored it. -/
def Owned (bucket : Bucket) : Prop :=
  ∀ object ∈ bucket.rows, ∃ name, object.key = (gatewayOf ours theirs object.side).key name

/-- What a listing is for: it has no entry for an object that the other gateway stored, and every
name it returns is one of an object. -/
def Confined (listing : ListObjectsV2) (bucket : Bucket) (under : String) (limit : Int) : Prop :=
  (∀ key ∈ listing.contents bucket (ours.scopedPrefix under) limit.toNat,
    ∀ object ∈ bucket.find key, object.side = .ours) ∧
  ∀ names, ours.list listing bucket under limit = .ok names →
    ∀ name ∈ names, (ours.get bucket name).isSome = true

end Gateways

section Keys

variable {ours theirs gateway : S3ObjectGateway}

theorem startsWith_iff (text start : String) :
    startsWith text start = true ↔ start.toList <+: text.toList := List.isPrefixOf_iff_prefix

theorem key_toList (named : gateway.keyPrefix ≠ "") (name : String) :
    (gateway.key name).toList =
      (gateway.keyPrefix.toList ++ ['/']) ++ (stripSlashes name).toList := by
  unfold S3ObjectGateway.key
  rw [if_pos named, String.toList_append, String.toList_append]
  rfl

theorem relative_key (named : gateway.keyPrefix ≠ "") (name : String) :
    gateway.relative (gateway.key name) = stripSlashes name := by
  unfold S3ObjectGateway.relative
  dsimp only
  have length : (gateway.keyPrefix.toList ++ ['/']).length = gateway.keyPrefix.length + 1 := by
    rw [List.length_append, String.length_toList]
    rfl
  rw [if_pos named, key_toList named, ← length, List.drop_left, String.ofList_toList]

/-- A key is found again by what a listing makes of it. -/
theorem key_relative (named : gateway.keyPrefix ≠ "") (name : String) :
    gateway.key (gateway.relative (gateway.key name)) = gateway.key name := by
  rw [relative_key named]
  unfold S3ObjectGateway.key
  rw [stripSlashes, stripSlashes, Text.stripOf_idem]

/-- The keys of two gateways that are apart share no start with a slash at the end of the first
prefix. -/
theorem Apart.key (apart : Apart ours theirs) (named : theirs.keyPrefix ≠ "") (name : String) :
    ¬(ours.keyPrefix.toList ++ ['/']) <+: (theirs.key name).toList := by
  intro below
  have ⟨different, notAbove, notBelow⟩ := apart
  have own : theirs.keyPrefix.toList ++ ['/'] <+: (theirs.key name).toList := by
    rw [key_toList named]
    exact List.prefix_append _ _
  have above : ∀ first second : S3ObjectGateway, first.keyPrefix ≠ second.keyPrefix →
      first.keyPrefix.toList ++ ['/'] <+: second.keyPrefix.toList ++ ['/'] →
      startsWith second.keyPrefix (first.keyPrefix ++ "/") = true := by
    intro first second distinct start
    rw [startsWith_iff, String.toList_append]
    rcases List.prefix_concat_iff.mp start with same | inner
    · exact absurd (String.toList_inj.mp (List.append_cancel_right same)) distinct
    · exact inner
  rcases List.prefix_or_prefix_of_prefix below own with first | second
  · rw [above ours theirs different first] at notAbove
    cases notAbove
  · rw [above theirs ours different.symm second] at notBelow
    cases notBelow

/-- Where a key of theirs begins with our prefix, so does their prefix. -/
theorem Apart.start (apart : Apart ours theirs) (named : theirs.keyPrefix ≠ "") {name : String}
    (begins : ours.keyPrefix.toList <+: (theirs.key name).toList) :
    startsWith theirs.keyPrefix ours.keyPrefix = true := by
  have notBelow := apart.2.2
  have own : theirs.keyPrefix.toList ++ ['/'] <+: (theirs.key name).toList := by
    rw [key_toList named]
    exact List.prefix_append _ _
  rw [startsWith_iff]
  have outside : ¬theirs.keyPrefix.toList ++ ['/'] <+: ours.keyPrefix.toList := by
    intro inner
    have below := (startsWith_iff ours.keyPrefix (theirs.keyPrefix ++ "/")).mpr (by
      rw [String.toList_append]
      exact inner)
    rw [below] at notBelow
    cases notBelow
  rcases List.prefix_or_prefix_of_prefix begins own with first | second
  · rcases List.prefix_concat_iff.mp first with same | inner
    · exact absurd (same ▸ List.prefix_rfl) outside
    · exact inner
  · exact absurd second outside

end Keys

section Runs

variable {ours theirs : S3ObjectGateway}

theorem step_owned {bucket next : Bucket} {call : Call} (owned : Owned ours theirs bucket)
    (stepped : step ours theirs bucket call = some next) : Owned ours theirs next := by
  intro object member
  cases call with
  | put side name value =>
      obtain rfl := Option.some.inj stepped
      rcases Table.mem_put member with same | old
      · exact ⟨name, by rw [same]⟩
      · exact owned object old.1
  | delete side name =>
      obtain rfl := Option.some.inj stepped
      exact owned object (Table.mem_remove.mp member).1

theorem run_owned {calls : List Call} {bucket : Bucket}
    (ran : run (step ours theirs) .empty calls = some bucket) : Owned ours theirs bucket :=
  run_invariant_always (Owned ours theirs) (fun _ _ _ owned stepped => step_owned owned stepped)
    (fun _ member => absurd member List.not_mem_nil) ran

/-- A listing that leads to keys of ours only is confined. -/
theorem confined_of_ours (named : ours.keyPrefix ≠ "") {listing : ListObjectsV2} {bucket : Bucket}
    {under : String} {limit : Int} (owned : Owned ours theirs bucket)
    (only : ∀ name, ¬(ours.scopedPrefix under).toList <+: (theirs.key name).toList) :
    Confined ours listing bucket under limit := by
  have found : ∀ key ∈ listing.contents bucket (ours.scopedPrefix under) limit.toNat,
      ∃ object ∈ bucket.rows, object.key = key ∧ object.side = .ours ∧
        ∃ name, key = ours.key name := by
    intro key member
    have ⟨inside, begins⟩ := List.mem_filter.mp (listing.stored _ _ _ key member)
    have ⟨object, held, same⟩ := List.mem_map.mp inside
    have ⟨name, named⟩ := owned object held
    cases side : object.side with
    | ours =>
        rw [side] at named
        exact ⟨object, held, same, side, name, same ▸ named⟩
    | theirs =>
        rw [side] at named
        rw [← same, named] at begins
        exact absurd ((startsWith_iff _ _).mp begins) (only name)
  constructor
  · intro key member object stored
    have ⟨other, held, same, side, _⟩ := found key member
    have ⟨here, keyed⟩ := Table.find_some.mp stored
    rw [Table.eq_of_key here held (keyed.trans same.symm)]
    exact side
  · intro names listed name member
    unfold S3ObjectGateway.list at listed
    split at listed
    · cases listed
    · rw [← Except.ok.inj listed] at member
      have ⟨key, inside, cut⟩ := List.mem_map.mp member
      have ⟨object, held, same, _, full, own⟩ := found key inside
      have stored := Table.find_mem held
      unfold S3ObjectGateway.get
      rw [← cut, own, key_relative named, ← own, ← same, stored]
      rfl

/-- One object of theirs is enough for a listing of everything to leave ours. -/
theorem list_leaks (listing : ListObjectsV2) (others : theirs.keyPrefix ≠ "")
    (begins : startsWith theirs.keyPrefix ours.keyPrefix = true) :
    ∃ calls bucket, run (step ours theirs) .empty calls = some bucket ∧
      ¬Confined ours listing bucket "" 1 := by
  let object : Object := ⟨theirs.key "k", [], .theirs⟩
  let bucket : Bucket := Table.empty.put object
  refine ⟨[.put .theirs "k" []], bucket, rfl, fun confined => ?_⟩
  have single : bucket.rows = [object] := rfl
  have everywhere : ours.scopedPrefix "" = ours.keyPrefix := rfl
  have whole : startsWith object.key ours.keyPrefix = true := by
    rw [startsWith_iff, key_toList others, List.append_assoc]
    exact ((startsWith_iff _ _).mp begins).trans (List.prefix_append _ _)
  have matched : bucket.matching ours.keyPrefix = [object.key] := by
    unfold Bucket.matching
    rw [single]
    exact List.filter_cons_of_pos whole
  have listed : object.key ∈ listing.contents bucket (ours.scopedPrefix "") (1 : Int).toNat := by
    rw [everywhere]
    apply listing.whole
    · rw [matched]
      exact Nat.le_refl 1
    · rw [matched]
      exact List.mem_cons_self
  have stored : bucket.find object.key = some object :=
    Table.find_mem (by rw [single]; exact List.mem_cons_self)
  have mine : Side.theirs = Side.ours := confined.1 object.key listed object stored
  cases mine

/-- For all calls through two gateways that are apart: a listing stays with the objects of its own
gateway exactly when it is under a name, or the other prefix does not begin with its own. -/
theorem list_confined_iff (listing : ListObjectsV2) (named : ours.keyPrefix ≠ "")
    (others : theirs.keyPrefix ≠ "") (apart : Apart ours theirs) (under : String) :
    (∀ calls bucket limit, run (step ours theirs) .empty calls = some bucket → 0 < limit →
      Confined ours listing bucket under limit) ↔
    under ≠ "" ∨ startsWith theirs.keyPrefix ours.keyPrefix = false := by
  constructor
  · intro confined
    by_contra neither
    have ⟨everything, begins⟩ := not_or.mp neither
    have ⟨calls, bucket, ran, leaks⟩ :=
      list_leaks listing others (Bool.eq_true_of_not_eq_false begins)
    rw [← not_not.mp everything] at leaks
    exact leaks (confined calls bucket 1 ran (by decide))
  · intro condition calls bucket limit ran _
    apply confined_of_ours named (run_owned ran)
    intro name begins
    by_cases everything : under = ""
    · have different := condition.resolve_left (not_not.mpr everything)
      rw [S3ObjectGateway.scopedPrefix, if_neg (not_not.mpr everything)] at begins
      rw [apart.start others begins] at different
      cases different
    · have deeper : ours.keyPrefix.toList ++ ['/'] <+: (ours.scopedPrefix under).toList := by
        unfold S3ObjectGateway.scopedPrefix
        rw [if_pos everything, key_toList named]
        exact List.prefix_append _ _
      exact apart.key others name (deeper.trans begins)

/-- A listing that answers with the oldest objects first. -/
def ListObjectsV2.oldest : ListObjectsV2 where
  contents bucket start maxKeys := (bucket.matching start).take (min maxKeys 1000)
  stored _ _ _ _ member := List.mem_of_mem_take member
  whole _ _ _ fits key member := by
    rw [List.take_of_length_le fits]
    exact member

theorem list_confined_iff_other :
    startsWith (S3ObjectGateway.init "web/").keyPrefix (S3ObjectGateway.init "app").keyPrefix =
        false ∧
      ∀ calls bucket limit, run (step (.init "app") (.init "web/")) .empty calls = some bucket →
        0 < limit → Confined (.init "app") .oldest bucket "" limit :=
  ⟨by decide,
    (list_confined_iff .oldest (by decide) (by decide) (by decide) "").mpr (.inr (by decide))⟩

/-- The objects below app2 are listed through app. -/
theorem list_confined_iff_longer :
    ¬∀ (listing : ListObjectsV2) (ours theirs : S3ObjectGateway), ours.keyPrefix ≠ "" →
      theirs.keyPrefix ≠ "" → Apart ours theirs → ∀ under calls bucket limit,
        run (step ours theirs) .empty calls = some bucket → 0 < limit →
          Confined ours listing bucket under limit := by
  intro confined
  have longer : startsWith (S3ObjectGateway.init "app2").keyPrefix
      (S3ObjectGateway.init "app").keyPrefix = true := by decide
  have ⟨calls, bucket, ran, leaks⟩ := list_leaks .oldest (by decide) longer
  exact leaks (confined .oldest (.init "app") (.init "app2") (by decide) (by decide) (by decide) ""
    calls bucket 1 ran (by decide))

end Runs

end AiPlatform.Objects
