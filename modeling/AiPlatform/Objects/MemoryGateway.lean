import Mathlib.Data.List.Dedup
import AiPlatform.Lib.Listing
import AiPlatform.Objects.S3Gateway

set_option autoImplicit false

/- `MemoryObjectGateway`. A listing normalises the text it searches for as if it were a key, so the
slash at the end of a prefix is lost and other names that begin with the same letters are found. -/
namespace AiPlatform.Objects.Memory

open Machine

structure Entry where
  key : String
  value : List UInt8
deriving DecidableEq

inductive GatewayError
  | runtimeError (text : String)
  | valueError (text : String)
deriving DecidableEq, Repr

/-- `prefix`, `_values` and `_closed`. -/
structure MemoryObjectGateway where
  keyPrefix : String
  values : Table Entry.key := .empty
  closed : Bool := false

namespace MemoryObjectGateway

variable (gateway : MemoryObjectGateway)

/-- `__init__`. -/
def init (keyPrefix : String) : MemoryObjectGateway := { keyPrefix := stripSlashes keyPrefix }

/-- `_ensure_open`. -/
def ensureOpen : Except GatewayError Unit :=
  if gateway.closed then .error (.runtimeError "object gateway is closed") else .ok ()

/-- `_key`, with the same body as the one of `S3ObjectGateway`. -/
def key (name : String) : String := S3ObjectGateway.key ⟨gateway.keyPrefix⟩ name

def put (name : String) (value : List UInt8) : Except GatewayError MemoryObjectGateway := do
  gateway.ensureOpen
  return { gateway with values := gateway.values.put ⟨gateway.key name, value⟩ }

def get (name : String) : Except GatewayError (Option (List UInt8)) := do
  gateway.ensureOpen
  return (gateway.values.find (gateway.key name)).map Entry.value

def delete (name : String) : Except GatewayError MemoryObjectGateway := do
  gateway.ensureOpen
  return { gateway with values := gateway.values.remove (gateway.key name) }

/-- The stored keys that `list` sorts. -/
def matching (under : String) : List String :=
  let scopedPrefix := if under ≠ "" then gateway.key under else gateway.keyPrefix
  (gateway.values.rows.map Entry.key).filter fun storedKey => startsWith storedKey scopedPrefix

def list (under : String) (limit : Int) : Except GatewayError (List String) := do
  gateway.ensureOpen
  if limit ≤ 0 then .error (.valueError "limit must be positive")
  else
    let prefixLen := if gateway.keyPrefix ≠ "" then gateway.keyPrefix.length + 1 else 0
    let sorted := (gateway.matching under).insertionSort (· ≤ ·)
    return (sorted.take limit.toNat).map fun storedKey =>
      String.ofList (storedKey.toList.drop prefixLen)

def close : MemoryObjectGateway := { gateway with values := .empty, closed := true }

end MemoryObjectGateway

inductive Write
  | put (name : String) (value : List UInt8)
  | delete (name : String)
deriving DecidableEq

/-- The name that a write is about, without its outer slashes. -/
def Write.name : Write → String
  | .put name _ => stripSlashes name
  | .delete name => stripSlashes name

def Write.value : Write → Option (List UInt8)
  | .put _ value => some value
  | .delete _ => none

@[simp] theorem name_put (name : String) (value : List UInt8) :
    (Write.put name value).name = stripSlashes name := rfl

@[simp] theorem name_delete (name : String) : (Write.delete name).name = stripSlashes name := rfl

@[simp] theorem value_put (name : String) (value : List UInt8) :
    (Write.put name value).value = some value := rfl

@[simp] theorem value_delete (name : String) : (Write.delete name).value = none := rfl

def step (gateway : MemoryObjectGateway) : Write → Option MemoryObjectGateway
  | .put name value => (gateway.put name value).toOption
  | .delete name => (gateway.delete name).toOption

/-- What the last write about a name left there. -/
def held (writes : List Write) (name : String) : Option (List UInt8) :=
  (writes.reverse.find? fun write => write.name = name).bind Write.value

def storedNames (writes : List Write) : List String :=
  ((writes.map Write.name).dedup.filter fun name => (held writes name).isSome).insertionSort (· ≤ ·)

/-- What a listing is for. -/
def Listed (writes : List Write) (gateway : MemoryObjectGateway) (under : String) (limit : Int) :
    Prop :=
  let names := ((storedNames writes).filter fun name => startsWith name under).take limit.toNat
  gateway.list under limit = .ok names ∧ names.Nodup ∧
    ∀ name ∈ names, (held writes name).isSome ∧ gateway.get name = .ok (held writes name)

/-- Before a name that has the prefix but for its last slashes, there are enough that have it. -/
def Fills (writes : List Write) (under : String) (limit : Int) : Prop :=
  ∀ name ∈ storedNames writes, startsWith name (stripSlashes under) = true →
    startsWith name under = false →
      limit.toNat ≤ (storedNames writes).countP fun other =>
        startsWith other under && decide (other < name)

instance (writes : List Write) (under : String) (limit : Int) :
    Decidable (Fills writes under limit) := inferInstanceAs (Decidable (∀ name ∈ _, _))

section Names

variable {writes : List Write}

theorem held_append (write : Write) (name : String) :
    held (writes ++ [write]) name =
      if write.name = name then write.value else held writes name := by
  by_cases same : write.name = name
  · simp [held, same]
  · simp [held, same]

theorem mem_storedNames {name : String} :
    name ∈ storedNames writes ↔ (held writes name).isSome = true := by
  rw [storedNames, List.mem_insertionSort, List.mem_filter, List.mem_dedup]
  refine and_iff_right_of_imp fun some => ?_
  obtain ⟨value, kept⟩ := Option.isSome_iff_exists.mp some
  obtain ⟨write, found, -⟩ := Option.bind_eq_some_iff.mp kept
  have member := List.mem_reverse.mp (List.mem_of_find?_eq_some found)
  have same := List.find?_some found
  rw [decide_eq_true_eq] at same
  exact List.mem_map.mpr ⟨write, member, same⟩

theorem storedNames_sorted : (storedNames writes).Pairwise (· < ·) :=
  Listing.sort_strict ((List.nodup_dedup _).filter _)

theorem storedNames_stripped {name : String} (stored : name ∈ storedNames writes) :
    stripSlashes name = name := by
  rw [storedNames, List.mem_insertionSort, List.mem_filter, List.mem_dedup] at stored
  obtain ⟨write, -, rfl⟩ := List.mem_map.mp stored.1
  cases write with
  | put name value => exact Text.stripOf_idem _ name
  | delete name => exact Text.stripOf_idem _ name

end Names

section Keys

variable {gateway : MemoryObjectGateway}

theorem key_start (gateway : MemoryObjectGateway) : ∃ start : List Char, ∀ name,
    (gateway.key name).toList = start ++ (stripSlashes name).toList ∧
      String.ofList ((gateway.key name).toList.drop
        (if gateway.keyPrefix ≠ "" then gateway.keyPrefix.length + 1 else 0)) =
          stripSlashes name := by
  by_cases named : gateway.keyPrefix = ""
  · refine ⟨[], fun name => ?_⟩
    simp [MemoryObjectGateway.key, S3ObjectGateway.key, named]
  · refine ⟨gateway.keyPrefix.toList ++ ['/'], fun name => ⟨Objects.key_toList named name, ?_⟩⟩
    have filled : (S3ObjectGateway.mk gateway.keyPrefix).keyPrefix ≠ "" := named
    exact Objects.relative_key filled name

theorem key_le_iff (first second : String) :
    gateway.key first ≤ gateway.key second ↔ stripSlashes first ≤ stripSlashes second := by
  obtain ⟨start, keys⟩ := key_start gateway
  rw [String.le_iff_toList_le, (keys first).1, (keys second).1, Listing.append_le_append_iff,
    ← String.le_iff_toList_le]

theorem key_inj {first second : String} :
    gateway.key first = gateway.key second ↔ stripSlashes first = stripSlashes second := by
  rw [le_antisymm_iff, key_le_iff, key_le_iff, ← le_antisymm_iff]

/-- The search text of a listing finds the names that begin with the stripped prefix. -/
theorem matching_key (under name : String) :
    startsWith (gateway.key name) (if under ≠ "" then gateway.key under else gateway.keyPrefix) =
      startsWith (stripSlashes name) (stripSlashes under) := by
  obtain ⟨start, keys⟩ := key_start gateway
  rw [Bool.eq_iff_iff, startsWith_iff, startsWith_iff]
  by_cases everything : under = ""
  · have whole : gateway.keyPrefix.toList <+: (gateway.key name).toList := by
      by_cases named : gateway.keyPrefix = ""
      · simp [named]
      · rw [MemoryObjectGateway.key, Objects.key_toList named, List.append_assoc]
        exact List.prefix_append _ _
    have nothing : stripSlashes "" = "" := rfl
    simp [everything, whole, nothing]
  · rw [if_pos everything, (keys name).1, (keys under).1, List.prefix_append_right_inj]

theorem startsWith_stripped {under name : String} (relative : startsWith under "/" = false)
    (begins : startsWith name under = true) : startsWith name (stripSlashes under) = true := by
  rw [startsWith_iff] at begins ⊢
  refine List.IsPrefix.trans ?_ begins
  rw [stripSlashes, Text.stripOf, String.toList_ofList]
  have whole : under.toList.dropWhile (fun letter => letter = '/') = under.toList := by
    cases letters : under.toList with
    | nil => rfl
    | cons first rest =>
        have other : first ≠ '/' := by
          rintro rfl
          simp [startsWith, letters] at relative
        simp [other]
  rw [whole]
  exact List.rdropWhile_prefix _ _

end Keys

section Runs

variable {keyPrefix : String} {writes : List Write} {gateway next : MemoryObjectGateway}

/-- The dictionary holds what the writes so far left there, under their keys. -/
structure Kept (writes : List Write) (gateway : MemoryObjectGateway) : Prop where
  opened : gateway.closed = false
  found : ∀ name, (gateway.values.find (gateway.key name)).map Entry.value =
    held writes (stripSlashes name)
  keyed : ∀ entry ∈ gateway.values.rows, ∃ name, entry.key = gateway.key name

theorem ensureOpen_ok (opened : gateway.closed = false) : gateway.ensureOpen = .ok () := by
  simp [MemoryObjectGateway.ensureOpen, opened]

theorem step_put (opened : gateway.closed = false) (name : String) (value : List UInt8) :
    step gateway (.put name value) =
      some { gateway with values := gateway.values.put ⟨gateway.key name, value⟩ } := by
  rw [step, MemoryObjectGateway.put, ensureOpen_ok opened]
  rfl

theorem step_delete (opened : gateway.closed = false) (name : String) :
    step gateway (.delete name) =
      some { gateway with values := gateway.values.remove (gateway.key name) } := by
  rw [step, MemoryObjectGateway.delete, ensureOpen_ok opened]
  rfl

theorem step_close (write : Write) : step gateway.close write = none := by
  cases write with
  | put name value => rfl
  | delete name => rfl

theorem Kept.step (kept : Kept writes gateway) (write : Write)
    (stepped : step gateway write = some next) : Kept (writes ++ [write]) next := by
  cases write with
  | put name value =>
      obtain rfl := Option.some.inj ((step_put kept.opened name value).symm.trans stepped)
      refine ⟨kept.opened, fun other => ?_, fun entry member => ?_⟩
      · show (Table.find _ (gateway.key other)).map Entry.value = _
        rw [held_append, Table.find_put, ← kept.found other]
        by_cases same : stripSlashes name = stripSlashes other
        · simp [key_inj, same]
        · simp [key_inj, same, Ne.symm same]
      · rcases Table.mem_put member with rfl | old
        · exact ⟨name, rfl⟩
        · exact kept.keyed entry old.1
  | delete name =>
      obtain rfl := Option.some.inj ((step_delete kept.opened name).symm.trans stepped)
      refine ⟨kept.opened, fun other => ?_, fun entry member => ?_⟩
      · show (Table.find _ (gateway.key other)).map Entry.value = _
        rw [held_append, Table.find_remove, ← kept.found other]
        by_cases same : stripSlashes name = stripSlashes other
        · simp [key_inj, same]
        · simp [key_inj, same, Ne.symm same]
      · exact kept.keyed entry (Table.mem_remove.mp member).1

theorem run_kept (ran : run step (.init keyPrefix) writes = some gateway) :
    Kept writes gateway := by
  induction writes using List.reverseRecOn generalizing gateway with
  | nil =>
      obtain rfl := Option.some.inj ran
      exact ⟨rfl, fun _ => rfl, fun _ member => absurd member List.not_mem_nil⟩
  | append_singleton writes write ih =>
      obtain ⟨middle, reached, last⟩ := run_append_some.mp ran
      obtain ⟨_, stepped, ended⟩ := run_cons_some.mp last
      obtain rfl := Option.some.inj ended
      exact (ih reached).step write stepped

/-- The stored keys, in any order, are the keys of the names that hold a value. -/
theorem Kept.keys (kept : Kept writes gateway) :
    (gateway.values.rows.map Entry.key).Perm ((storedNames writes).map gateway.key) := by
  have distinct : ((storedNames writes).map gateway.key).Nodup := by
    refine List.Nodup.map_on (fun first inside second inside' same => ?_)
      (storedNames_sorted.imp fun below => ne_of_lt below)
    rw [← storedNames_stripped inside, ← storedNames_stripped inside']
    exact key_inj.mp same
  refine (List.perm_ext_iff_of_nodup gateway.values.unique distinct).mpr fun key => ?_
  rw [List.mem_map, List.mem_map]
  constructor
  · rintro ⟨entry, inside, rfl⟩
    obtain ⟨name, named⟩ := kept.keyed entry inside
    have holds : held writes (stripSlashes name) = some entry.value := by
      rw [← kept.found, ← named, Table.find_mem inside]
      rfl
    refine ⟨stripSlashes name, mem_storedNames.mpr (by simp [holds]), ?_⟩
    rw [named, key_inj]
    exact Text.stripOf_idem _ name
  · rintro ⟨name, stored, rfl⟩
    have holds := mem_storedNames.mp stored
    rw [← storedNames_stripped stored, ← kept.found, Option.isSome_map] at holds
    obtain ⟨entry, found⟩ := Option.isSome_iff_exists.mp holds
    obtain ⟨inside, same⟩ := Table.find_some.mp found
    exact ⟨entry, inside, same⟩

/-- What a listing returns: the names that begin with the stripped prefix. -/
theorem Kept.list (kept : Kept writes gateway) (under : String) {limit : Int}
    (positive : 0 < limit) :
    gateway.list under limit = .ok (((storedNames writes).filter fun name =>
      startsWith name (stripSlashes under)).take limit.toNat) := by
  have stripped : ∀ name ∈ storedNames writes, stripSlashes name = name :=
    fun _ => storedNames_stripped
  let names := (storedNames writes).filter fun name => startsWith name (stripSlashes under)
  have inside : ∀ name ∈ names, name ∈ storedNames writes :=
    fun name member => (List.mem_filter.mp member).1
  have order : (gateway.matching under).insertionSort (· ≤ ·) = names.map gateway.key := by
    refine Listing.eq_of_perm ((List.perm_insertionSort _ _).trans ?_)
      (List.pairwise_insertionSort _ _) ?_
    · refine (kept.keys.filter _).trans (List.Perm.of_eq ?_)
      rw [List.filter_map]
      refine congrArg (List.map gateway.key) (List.filter_congr fun name stored => ?_)
      show startsWith (gateway.key name) _ = _
      rw [matching_key, stripped name stored]
    · refine List.pairwise_map.mpr ((storedNames_sorted.filter _).imp_of_mem ?_)
      intro first second first_in second_in below
      rw [key_le_iff, stripped first (inside first first_in),
        stripped second (inside second second_in)]
      exact le_of_lt below
  rw [MemoryObjectGateway.list, ensureOpen_ok kept.opened]
  show (if limit ≤ 0 then _ else _) = _
  rw [if_neg (Int.not_le.mpr positive)]
  obtain ⟨start, keys⟩ := key_start gateway
  refine congrArg Except.ok ?_
  rw [order, ← List.map_take, List.map_map]
  refine (List.map_congr_left fun name member => ?_).trans (List.map_id _)
  exact (keys name).2.trans (stripped name (inside name (List.mem_of_mem_take member)))

/-- A listing is right exactly when the names that the lost slash lets in come too late. -/
theorem list_exact_iff (ran : run step (.init keyPrefix) writes = some gateway) {under : String}
    (relative : startsWith under "/" = false) {limit : Int} (positive : 0 < limit) :
    Listed writes gateway under limit ↔ Fills writes under limit := by
  have kept := run_kept ran
  have opened := ensureOpen_ok kept.opened
  have narrower : (storedNames writes).filter (fun name => startsWith name under) =
      ((storedNames writes).filter fun name => startsWith name (stripSlashes under)).filter
        fun name => startsWith name under := by
    rw [List.filter_filter]
    refine List.filter_congr fun name _ => ?_
    by_cases begins : startsWith name under = true
    · simp [begins, startsWith_stripped relative begins]
    · simp [begins]
  have right : Listed writes gateway under limit ↔
      gateway.list under limit = .ok (((storedNames writes).filter fun name =>
        startsWith name under).take limit.toNat) := by
    refine and_iff_left ⟨?_, fun name member => ?_⟩
    · have sorted : (storedNames writes).Pairwise (· < ·) := storedNames_sorted
      exact ((sorted.imp fun below => ne_of_lt below).filter _).take
    · have stored := (List.mem_filter.mp (List.mem_of_mem_take member)).1
      refine ⟨mem_storedNames.mp stored, ?_⟩
      rw [MemoryObjectGateway.get, opened]
      show Except.ok ((gateway.values.find (gateway.key name)).map Entry.value) = _
      rw [kept.found, storedNames_stripped stored]
  rw [right, kept.list under positive, Except.ok.injEq, narrower,
    Listing.take_filter_iff (storedNames_sorted.filter _)]
  unfold Fills
  simp only [List.mem_filter, and_imp, List.countP_filter]
  refine forall₄_congr fun name _ _ _ => ?_
  have counts : ((storedNames writes).countP fun other =>
      (startsWith other under && decide (other < name)) && startsWith other (stripSlashes under)) =
        (storedNames writes).countP fun other =>
          startsWith other under && decide (other < name) := by
    refine List.countP_congr fun other _ => ?_
    by_cases begins : startsWith other under = true
    · simp [begins, startsWith_stripped relative begins]
    · simp [begins]
  rw [counts]

/-- Two names fill the page before the one that the lost slash lets in. -/
theorem list_exact_iff_page :
    ∃ gateway, run step (.init "app/")
        [.put "logs/b" [2], .put "/logs/a" [1], .put "logs2/x" [3]] = some gateway ∧
      Listed [.put "logs/b" [2], .put "/logs/a" [1], .put "logs2/x" [3]] gateway "logs/" 2 :=
  ⟨_, rfl, (list_exact_iff (rfl : run step (.init "app/") _ = some _) (by decide)
    (by decide)).mpr (by decide)⟩

/-- A listing of the names below logs returns one below logs2. -/
theorem list_exact_iff_longer :
    ¬∀ (keyPrefix : String) (writes : List Write) (gateway : MemoryObjectGateway)
      (under : String) (limit : Int), run step (.init keyPrefix) writes = some gateway →
        (∀ write ∈ writes, write.name ≠ "") → startsWith under "/" = false → 0 < limit →
          Listed writes gateway under limit := by
  intro listed
  have ⟨right, _⟩ := listed "app" [.put "logs2/x" [3]] _ "logs/" 100 rfl (by decide) (by decide)
    (by decide)
  revert right
  decide

end Runs

end AiPlatform.Objects.Memory
