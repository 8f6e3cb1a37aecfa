import Mathlib
import PeSignals.Config.Cache
import PeSignals.Files.Write
import PeSignals.Proofs.Config.Loading

/-!
# Cached configurations after a history

Files may be written, loaded and asked for through a cache in any order and as often as one likes. The cache
holds what was handed out last. It changes by a request alone, and only by one that loads a file without a
fault.
-/
namespace PeSignals

open PeSignals.Configuration (Inessential HasTable fileFor?)
open Files (FileTree)

/-! ## Requests -/

namespace ConfigurationCache

variable {cache : ConfigurationCache} {t : FileTree} {own : Option ByteArray} {c : Configuration}

/-- A cached configuration is served without a look at any file. -/
theorem get_of_cached (h : cache.current? = some c) : cache.get t none own = (cache, .ok ⟨c, false⟩) := by
  unfold get
  rw [h]

/-- A request that names a path always loads it, whatever is cached. -/
theorem get_path (path : String) : cache.get t (some path) own = cache.reload t (some path) own := by
  unfold get
  cases cache.current? <;> rfl

theorem get_of_empty (h : cache.current? = none) (path : Option String) :
    cache.get t path own = cache.reload t path own := by
  unfold get
  rw [h]

theorem reload_of_ok {path : Option String} (h : Configuration.load t path own = .ok c) :
    cache.reload t path own = (⟨some c⟩, .ok ⟨c, true⟩) := by
  rw [reload, h]

/-- A load that fails leaves the cache as it was. -/
theorem reload_of_error {path : Option String} {fault : Configuration.Fault}
    (h : Configuration.load t path own = .error fault) : cache.reload t path own = (cache, .error fault) := by
  rw [reload, h]

/-- What a request can come to: the cached configuration, a newly loaded one that takes its place, or a fault
that leaves the cache alone. -/
theorem get_cases (cache : ConfigurationCache) (t : FileTree) (path : Option String)
    (own : Option ByteArray) :
    (∃ c, path = none ∧ cache.current? = some c ∧ cache.get t path own = (cache, .ok ⟨c, false⟩)) ∨
    (∃ c, Configuration.load t path own = .ok c ∧ cache.get t path own = (⟨some c⟩, .ok ⟨c, true⟩)) ∨
    (∃ fault, Configuration.load t path own = .error fault ∧
      cache.get t path own = (cache, .error fault)) := by
  have hreload (h : cache.get t path own = cache.reload t path own) :
      (∃ c, Configuration.load t path own = .ok c ∧ cache.get t path own = (⟨some c⟩, .ok ⟨c, true⟩)) ∨
      (∃ fault, Configuration.load t path own = .error fault ∧
        cache.get t path own = (cache, .error fault)) := by
    cases hload : Configuration.load t path own with
    | ok c => exact .inl ⟨c, rfl, h.trans (reload_of_ok hload)⟩
    | error fault => exact .inr ⟨fault, rfl, h.trans (reload_of_error hload)⟩
  cases path with
  | some path => exact .inr (hreload (get_path path))
  | none =>
    cases hcurrent : cache.current? with
    | none => exact .inr (hreload (get_of_empty hcurrent none))
    | some c => exact .inl ⟨c, rfl, rfl, get_of_cached hcurrent⟩

/-! ## Histories -/

/-- The files that configurations are loaded from, and the cache. -/
structure Session where
  tree : FileTree
  /-- The program's own file, if there is one. -/
  own : Option ByteArray
  cache : ConfigurationCache

/-- One thing that is done to files or with them. -/
inductive Act
  | write (path : String) (bytes : ByteArray)
  /-- The program's own file is written, or taken away. -/
  | writeOwn (bytes : Option ByteArray)
  | load (path : Option String)
  | get (path : Option String)

namespace Session

def load (s : Session) (path : Option String) : Except Configuration.Fault Configuration :=
  Configuration.load s.tree path s.own

def get (s : Session) (path : Option String) :
    ConfigurationCache × Except Configuration.Fault Served :=
  s.cache.get s.tree path s.own

def acted (s : Session) : Act → Session
  | .write path bytes => { s with tree := (s.tree.writeSpelled path bytes).tree }
  | .writeOwn bytes => { s with own := bytes }
  | .load _ => s
  | .get path => { s with cache := (s.get path).1 }

/-- A session after acts, the earliest first. -/
def after (s : Session) (acts : List Act) : Session := acts.foldl acted s

/-- The configuration that the cache hands out in an act. -/
def served? (s : Session) : Act → Option Configuration
  | .get path => (s.get path).2.toOption.map (·.configuration)
  | _ => none

/-- The configuration that the cache handed out last. -/
def lastServed? (s : Session) : List Act → Option Configuration
  | [] => none
  | act :: rest => (lastServed? (s.acted act) rest).or (s.served? act)

theorem current?_acted (s : Session) (act : Act) :
    (s.acted act).cache.current? = (s.served? act).or s.cache.current? := by
  cases act with
  | write path bytes => rfl
  | writeOwn bytes => rfl
  | load path => rfl
  | get path =>
    -- Handed out is the cached configuration, a new one that is cached by now, or none.
    rcases get_cases s.cache s.tree path s.own with ⟨c, -, hcurrent, hget⟩ | ⟨c, -, hget⟩ | ⟨fault, -, hget⟩
    · rw [acted, served?, get, hget]
      exact hcurrent
    · rw [acted, served?, get, hget]
      rfl
    · rw [acted, served?, get, hget]
      rfl

/-- The cache holds what was served last, or else what it held at the start. -/
theorem current?_after (s : Session) (acts : List Act) :
    (s.after acts).cache.current? = (s.lastServed? acts).or s.cache.current? := by
  induction acts generalizing s with
  | nil => rfl
  | cons act rest ih => rw [after, List.foldl_cons, ← after, ih, current?_acted, lastServed?, Option.or_assoc]

/-- Whether loads and requests keep to the files and to the cache. -/
structure Serves (s : Session) : Prop where
  loads : ∀ path bytes document, fileFor? s.tree s.own path = some bytes →
    Toml.decode bytes = .ok document → HasTable document "global" → HasTable document "drmscan" →
      ∃ c, s.load path = .ok c ∧ c.Tells document
  alike : ∀ path other bytes bytes' document document', fileFor? s.tree s.own path = some bytes →
    fileFor? s.tree s.own other = some bytes' → Toml.decode bytes = .ok document →
      Toml.decode bytes' = .ok document' → Relation.EqvGen Inessential document document' →
        s.load path = s.load other
  missing : ∀ path, s.tree.pathExists (Files.Path.ofText path).text = .ok false →
    s.load (some path) = .error (.missing (Files.Path.ofText path).text)
  malformed : ∀ path bytes cause, fileFor? s.tree s.own path = some bytes →
    Toml.decode bytes = .error cause → s.load path = .error (.malformed cause)
  noTable : ∀ path bytes document, fileFor? s.tree s.own path = some bytes →
    Toml.decode bytes = .ok document → ¬ (HasTable document "global" ∧ HasTable document "drmscan") →
      ∃ typeName, s.load path = .error (.notATable typeName)
  uncached : ∀ path, (s.acted (.load path)).cache = s.cache
  refused : ∀ path fault, s.load (some path) = .error fault → (s.get (some path)).2 = .error fault
  failed : ∀ path fault, (s.get path).2 = .error fault →
    s.load path = .error fault ∧ (s.acted (.get path)).cache = s.cache
  replaced : ∀ path served, (s.get (some path)).2 = .ok served →
    s.load (some path) = .ok served.configuration ∧ served.fresh = true ∧
      (s.acted (.get (some path))).cache.current? = some served.configuration
  kept : ∀ c, s.cache.current? = some c → s.get none = (s.cache, .ok ⟨c, false⟩)

theorem serves (s : Session) : s.Serves where
  loads := by
    intro path bytes document hbytes hdocument hgeneral hscan
    obtain ⟨c, hc, htells⟩ := Configuration.exists_ofTable hgeneral hscan
    exact ⟨c, (Configuration.load_eq_ofTable hbytes hdocument).trans hc, htells⟩
  alike := by
    intro path other bytes bytes' document document' hbytes hbytes' hdocument hdocument' hsame
    calc s.load path = Configuration.ofTable document := Configuration.load_eq_ofTable hbytes hdocument
      _ = Configuration.ofTable document' := Configuration.ofTable_of_eqvGen hsame
      _ = s.load other := (Configuration.load_eq_ofTable hbytes' hdocument').symm
  missing := fun _ h => Configuration.load_of_missing s.own h
  malformed := fun _ _ _ hbytes hcause =>
    (Configuration.load_of_fileFor? hbytes).trans (Configuration.ofBytes_of_malformed hcause)
  noTable := by
    intro path bytes document hbytes hdocument hother
    obtain ⟨typeName, herror⟩ := Configuration.exists_ofTable_eq_error hother
    exact ⟨typeName, (Configuration.load_eq_ofTable hbytes hdocument).trans herror⟩
  uncached := fun _ => rfl
  refused := by
    intro path fault hload
    rw [get, get_path, reload_of_error hload]
  failed := by
    intro path fault hfault
    rcases get_cases s.cache s.tree path s.own with ⟨c, -, -, hget⟩ | ⟨c, -, hget⟩ | ⟨other, hload, hget⟩
    · rw [get, hget] at hfault
      cases hfault
    · rw [get, hget] at hfault
      cases hfault
    · rw [get, hget] at hfault
      cases hfault
      exact ⟨hload, congrArg Prod.fst hget⟩
  replaced := by
    intro path served hserved
    rcases get_cases s.cache s.tree (some path) s.own with ⟨c, hnone, -⟩ | ⟨c, hload, hget⟩ | ⟨fault, -, hget⟩
    · cases hnone
    · rw [get, hget] at hserved
      cases hserved
      exact ⟨hload, rfl, congrArg (fun result => result.1.current?) hget⟩
    · rw [get, hget] at hserved
      cases hserved
  kept := fun _ => get_of_cached

/-- After any history loads and requests keep to the files and to the cache, the cache holds what it handed
out last, and asking it without a path gives that very configuration, whatever became of the files. -/
theorem serves_after (s : Session) (acts : List Act) :
    (s.after acts).Serves ∧
      (s.after acts).cache.current? = (s.lastServed? acts).or s.cache.current? ∧
      ∀ c, s.lastServed? acts = some c → ((s.after acts).get none).2 = .ok ⟨c, false⟩ := by
  refine ⟨(s.after acts).serves, s.current?_after acts, fun c hc => ?_⟩
  have hcurrent : (s.after acts).cache.current? = some c := by
    rw [current?_after, hc, Option.some_or]
  rw [get, get_of_cached hcurrent]

/-- A file that is overwritten with one that is malformed cannot be loaded any more, and the cache still has what
the file said before. -/
example :
    let s : Session := ⟨{ files := [(["c.toml"], "[drmscan]\nmax_executables = 9\n".toUTF8)] }, none, {}⟩
    let t := s.after [.get (some "c.toml"), .write "c.toml" "[drmscan\n".toUTF8, .get (some "c.toml")]
    (t.load (some "c.toml")).isOk = false ∧
      ((t.get none).2.toOption.map fun r => (r.configuration.scanSetting "max_executables").bound?) =
        some (some (some 9)) := by
  decide +kernel

end Session

end ConfigurationCache

end PeSignals
