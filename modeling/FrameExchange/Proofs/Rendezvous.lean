import Mathlib.Logic.Relation
import FrameExchange.World.Perform
import FrameExchange.Proofs.Names
import FrameExchange.Proofs.Sessions
import FrameExchange.Proofs.System

/-!
# Meeting under a name

What it means for two objects to have opened the same shared objects, whatever was opened, taken
away, written and left lying around before, and which names no system accepts.

- `SharedStore.Named` — a file has one name at most; `SharedStore.Precedes` — a file never gets a
  name that it did not have before.
- `System.Happens` — everything that is done to the shared objects of a computer.
- `System.openRegion_congr` — which files are opened is a matter of the names that the system is
  given.
- `RegionConfig.nameFault` — why the names of a configuration are refused.
- `RegionNames.rendezvous` — objects meet exactly where version, size and product agree, and
  opening and unlinking refuse the same names.
-/

namespace FrameExchange

/-! ## Names of files -/

namespace SharedStore

variable {s s' s'' : SharedStore}

/-- A file has one name at most, and no file has a number that is yet to be given. -/
structure Named (s : SharedStore) : Prop where
  used : ∀ {name : String} {id : Nat}, s.entries.get? name = some (.file id) → id < s.next
  unique : ∀ {a b : String} {id : Nat}, s.entries.get? a = some (.file id) →
    s.entries.get? b = some (.file id) → a = b

/-- What was there before keeps its number, and gets no other name. -/
structure Precedes (s s' : SharedStore) : Prop where
  next : s.next ≤ s'.next
  kept : ∀ {name : String} {id : Nat}, id < s.next → s'.entries.get? name = some (.file id) →
    s.entries.get? name = some (.file id)

/-- Files have one name each as before, and nothing that was there gets another one. -/
def Keeps (s s' : SharedStore) : Prop := s.Named → s'.Named ∧ s.Precedes s'

theorem Precedes.refl (s : SharedStore) : s.Precedes s := ⟨Nat.le_refl _, fun _ h => h⟩

theorem Precedes.trans (first : s.Precedes s') (second : s'.Precedes s'') : s.Precedes s'' where
  next := Nat.le_trans first.next second.next
  kept hid h := first.kept hid (second.kept (Nat.lt_of_lt_of_le hid first.next) h)

theorem Keeps.refl (s : SharedStore) : s.Keeps s := fun hnamed => ⟨hnamed, .refl s⟩

theorem Keeps.trans (first : s.Keeps s') (second : s'.Keeps s'') : s.Keeps s'' := by
  intro hnamed
  obtain ⟨hnamed', hprecedes⟩ := first hnamed
  obtain ⟨hnamed'', hprecedes'⟩ := second hnamed'
  exact ⟨hnamed'', hprecedes.trans hprecedes'⟩

/-- Where no file gets a name, there is nothing to be said against it. -/
theorem Keeps.of_fewer (hnext : s'.next = s.next) (hfewer : ∀ {name : String} {id : Nat},
    s'.entries.get? name = some (.file id) → s.entries.get? name = some (.file id)) :
    s.Keeps s' := by
  intro hnamed
  refine ⟨⟨fun h => ?_, fun ha hb => hnamed.unique (hfewer ha) (hfewer hb)⟩,
    Nat.le_of_eq hnext.symm, fun _ h => hfewer h⟩
  rw [hnext]
  exact hnamed.used (hfewer h)

/-- A new file has a number that no name stands for. -/
theorem Keeps.create (s : SharedStore) (name : String) (file : SharedFile) :
    s.Keeps (s.createFile name file).2 := by
  intro hnamed
  have hentry {a : String} {id : Nat}
      (h : (s.createFile name file).2.entries.get? a = some (.file id)) :
      name = a ∧ id = s.next ∨ name ≠ a ∧ s.entries.get? a = some (.file id) := by
    unfold createFile at h
    rw [Table.get?_insert] at h
    by_cases ha : name = a
    · rw [if_pos ha] at h
      cases h
      exact .inl ⟨ha, rfl⟩
    · rw [if_neg ha] at h
      exact .inr ⟨ha, h⟩
  have hnext : (s.createFile name file).2.next = s.next + 1 := rfl
  refine ⟨⟨fun h => ?_, fun {a b id} ha hb => ?_⟩, by omega, fun hid h => ?_⟩
  · rcases hentry h with ⟨-, rfl⟩ | ⟨-, hold⟩
    · omega
    · have := hnamed.used hold
      omega
  · rcases hentry ha with ⟨rfl, hida⟩ | ⟨-, hold⟩ <;> rcases hentry hb with ⟨rfl, hidb⟩ | ⟨-, hold'⟩
    · rfl
    · have := hnamed.used hold'
      omega
    · have := hnamed.used hold
      omega
    · exact hnamed.unique hold hold'
  · rcases hentry h with ⟨-, rfl⟩ | ⟨-, hold⟩
    · omega
    · exact hold

/-- Taking a name away. -/
theorem Keeps.erase (s : SharedStore) (name : String) :
    s.Keeps { s with entries := s.entries.erase name } := by
  refine .of_fewer rfl fun {a id} h => ?_
  replace h : (s.entries.erase name).get? a = some (.file id) := h
  rw [Table.get?_erase] at h
  split at h
  · cases h
  · exact h

/-- Something under a name that is no file. -/
theorem Keeps.block (s : SharedStore) (name : String) {entry : SharedEntry}
    (hentry : ∀ id, entry ≠ .file id) :
    s.Keeps { s with entries := s.entries.insert name entry } := by
  refine .of_fewer rfl fun {a id} h => ?_
  replace h : (s.entries.insert name entry).get? a = some (.file id) := h
  rw [Table.get?_insert] at h
  split at h
  · exact absurd (Option.some.inj h) (hentry id)
  · exact h

/-- Other contents of files. -/
theorem Keeps.write (s : SharedStore) (files : Table Nat SharedFile) :
    s.Keeps { s with files } := .of_fewer rfl fun h => h

/-! ## Opening and unlinking -/

/-- A name that is taken away was accepted, and stands for no directory. -/
theorem unlink_cases (s : SharedStore) (name : String) :
    (∃ e, osName name = .error e ∧ s.unlink name = .error e) ∨
      ∃ flat, osName name = .ok flat ∧
        (s.entries.get? flat = some .directory ∧ s.unlink name = .error (.system .isDirectory) ∨
          s.entries.get? flat ≠ some .directory ∧
            s.unlink name = .ok { s with entries := s.entries.erase flat }) := by
  unfold unlink
  cases hname : osName name with
  | error e => exact .inl ⟨e, rfl, rfl⟩
  | ok flat =>
    refine .inr ⟨flat, rfl, ?_⟩
    by_cases hdirectory : s.entries.get? flat = some .directory
    · refine .inl ⟨hdirectory, ?_⟩
      dsimp only [bind, Except.bind]
      rw [hdirectory]
      rfl
    · refine .inr ⟨hdirectory, ?_⟩
      dsimp only [bind, Except.bind]
      split
      · contradiction
      · rfl

theorem unlink_keeps {name : String} (h : s.unlink name = .ok s') : s.Keeps s' := by
  rcases s.unlink_cases name with ⟨e, -, hresult⟩ | ⟨flat, -, ⟨-, hresult⟩ | ⟨-, hresult⟩⟩
  · cases hresult.symm.trans h
  · cases hresult.symm.trans h
  · cases hresult.symm.trans h
    exact .erase s flat

theorem unlinkRegion_keeps (s : SharedStore) (names : RegionNames) :
    s.Keeps (s.unlinkRegion names).2 := by
  unfold unlinkRegion
  cases hmapping : s.unlink names.mapping with
  | error e => exact .refl s
  | ok t =>
    dsimp only
    cases hlock : t.unlink names.lock with
    | error e => exact unlink_keeps hmapping
    | ok u => exact (unlink_keeps hmapping).trans (unlink_keeps hlock)

/-- A mapping that is opened stands under its name then. -/
theorem openMapping_ok {names : RegionNames} {id : Nat} (h : s.openMapping names = .ok (id, s')) :
    s.Keeps s' ∧ ∃ flat, osName names.mapping = .ok flat ∧
      s'.entries.get? flat = some (.file id) := by
  unfold openMapping at h
  cases hname : osName names.mapping with
  | error e =>
    rw [hname] at h
    cases h
  | ok flat =>
    rw [hname] at h
    dsimp only [bind, Except.bind] at h
    split at h
    · cases h
      have hinserted := Table.get?_insert s.entries flat flat (SharedEntry.file s.next)
      exact ⟨.create s flat _, flat, rfl, hinserted.trans (if_pos rfl)⟩
    · next hfile =>
      cases h
      exact ⟨.write s _, flat, rfl, hfile⟩
    · cases h
    · cases h

end SharedStore

namespace System

variable {s s' s'' : System}

/-- How opening the file of a lock can end: with the file under its name or with an error that is
not about the name, and other names are left alone. -/
structure OpensUnder (name : String) (s : System) (outcome : Except RegionError Nat × System) :
    Prop where
  keeps : s.store.Keeps outcome.2.store
  aside : ∀ other, other ≠ name →
    outcome.2.store.entries.get? other = s.store.entries.get? other
  found : ∀ id, outcome.1 = .ok id → outcome.2.store.entries.get? name = some (.file id)
  error : ∀ e, outcome.1 = .error e → e.kind ≠ .invalidName

theorem OpensUnder.failed {name : String} {e : RegionError} (hstore : s'.store = s.store)
    (hkind : e.kind ≠ .invalidName) : OpensUnder name s (.error e, s') where
  keeps := by
    show s.store.Keeps s'.store
    rw [hstore]
    exact .refl _
  aside other _ := by
    show s'.store.entries.get? other = _
    rw [hstore]
  found id h := by cases h
  error e' h := by
    cases h
    exact hkind

theorem openLockOnce_opens (s : System) (names : RegionNames) (name : String)
    (timeout : Duration) : OpensUnder name s (s.openLockOnce names name timeout) := by
  unfold openLockOnce
  split
  · have hinserted (other : String) := Table.get?_insert s.store.entries name other
      (SharedEntry.file s.store.next)
    refine ⟨.create _ _ _, fun other hother => ?_, fun id h => ?_, fun e h => by cases h⟩
    · exact (hinserted other).trans (if_neg hother.symm)
    · cases h
      exact (hinserted name).trans (if_pos rfl)
  · next hfile =>
    split
    · refine ⟨.refl _, fun _ _ => rfl, fun id h => ?_, fun e h => by cases h⟩
      cases h
      exact hfile
    · exact .failed rfl (by simp [RegionError.kind])
  · exact .failed rfl (by simp [RegionError.kind])
  · exact .failed rfl (by simp [RegionError.kind])

theorem openLock_opens {names : RegionNames} {name : String} (timeout : Duration)
    (hname : osName names.lock = .ok name) : OpensUnder name s (s.openLock names timeout) := by
  have hfirst := s.openLockOnce_opens names name timeout
  unfold openLock
  rw [hname]
  dsimp only
  split
  · next lock t hlock =>
    rw [hlock] at hfirst
    -- the file was never finished: its name is taken away, and a second attempt makes another one
    rcases t.store.unlink_cases names.lock with
      ⟨e, herror, -⟩ | ⟨flat, hflat, ⟨-, hunlink⟩ | ⟨-, hunlink⟩⟩
    · cases herror.symm.trans hname
    · rw [hunlink]
      refine ⟨hfirst.keeps, hfirst.aside, fun id h => (nomatch h), fun e h => ?_⟩
      cases h
      decide
    · cases hflat.symm.trans hname
      rw [hunlink]
      have hsecond := openLockOnce_opens
        { store := { t.store with entries := t.store.entries.erase name }
          host := t.host.report (.lockRecreated lock) } names name timeout
      refine ⟨hfirst.keeps.trans (.trans (.erase t.store name) hsecond.keeps),
        fun other hother => ?_, hsecond.found, hsecond.error⟩
      refine (hsecond.aside other hother).trans (Eq.trans ?_ (hfirst.aside other hother))
      exact (Table.get?_erase t.store.entries name other).trans (if_neg hother.symm)
  · exact hfirst

/-- A region that is opened has its two files under its two names. -/
theorem openRegion_ok {names : RegionNames} {timeout : Duration} {mapping lock : Nat}
    (hdiffer : flatName names.mapping ≠ flatName names.lock)
    (h : s.openRegion names timeout = (.ok (mapping, lock), s')) :
    s'.store.entries.get? (flatName names.mapping) = some (.file mapping) ∧
      s'.store.entries.get? (flatName names.lock) = some (.file lock) := by
  unfold openRegion at h
  cases hmapping : s.store.openMapping names with
  | error e =>
    rw [hmapping] at h
    cases h
  | ok opened =>
    obtain ⟨id, store⟩ := opened
    rw [hmapping] at h
    dsimp only at h
    obtain ⟨-, flat, hflat, hentry⟩ := SharedStore.openMapping_ok hmapping
    cases osName_ok hflat
    cases hname : osName names.lock with
    | error e =>
      unfold openLock at h
      rw [hname] at h
      cases h
    | ok name =>
      have hopens := openLock_opens (s := { s with store }) timeout hname
      cases osName_ok hname
      generalize openLock { s with store } names timeout = outcome at h hopens
      obtain ⟨result, t⟩ := outcome
      cases result with
      | error e => cases h
      | ok id' =>
        cases h
        exact ⟨(hopens.aside _ hdiffer).trans hentry, hopens.found lock rfl⟩

theorem openRegion_keeps (s : System) (names : RegionNames) (timeout : Duration) :
    s.store.Keeps (s.openRegion names timeout).2.store := by
  unfold openRegion
  cases hmapping : s.store.openMapping names with
  | error e => exact .refl _
  | ok opened =>
    obtain ⟨id, store⟩ := opened
    have hkeeps := (SharedStore.openMapping_ok hmapping).1
    have hlock : store.Keeps (openLock { s with store } names timeout).2.store := by
      cases hname : osName names.lock with
      | error e =>
        unfold openLock
        rw [hname]
        exact .refl _
      | ok name => exact (openLock_opens (s := { s with store }) timeout hname).keeps
    dsimp only
    generalize openLock { s with store } names timeout = outcome at hlock
    obtain ⟨result, t⟩ := outcome
    cases result <;> exact hkeeps.trans hlock

/-! ## Everything that happens -/

/-- What is done to the shared objects of a computer: operations of programs, whatever they were
built with, and whatever else somebody does with names and files. -/
inductive Happens (s : System) : System → Prop where
  | opens (names : RegionNames) (timeout : Duration) : s.Happens (s.openRegion names timeout).2
  | unlinks (names : RegionNames) : s.Happens { s with store := (s.store.unlinkRegion names).2 }
  | acts {α : Type} (caller : Thread) (r : OpenRegion) (operation : Act α) :
      s.Happens (s.act caller r operation).2.2
  | dies (thread : Thread) : s.Happens (s.threadDies thread)
  /-- Somebody else leaves a file of his own. -/
  | makes (name : String) (file : SharedFile) :
      s.Happens { s with store := (s.store.createFile name file).2 }
  /-- Somebody else leaves a directory or a link. -/
  | blocks (name : String) {entry : SharedEntry} (hentry : ∀ id, entry ≠ .file id) :
      s.Happens { s with store := { s.store with entries := s.store.entries.insert name entry } }
  | removes (name : String) :
      s.Happens { s with store := { s.store with entries := s.store.entries.erase name } }
  /-- Somebody else writes into files. -/
  | writes (files : Table Nat SharedFile) : s.Happens { s with store := { s.store with files } }
  | passes (host : Host) : s.Happens { s with host }

theorem Happens.keeps (h : s.Happens s') : s.store.Keeps s'.store := by
  cases h with
  | opens names timeout => exact s.openRegion_keeps names timeout
  | unlinks names => exact s.store.unlinkRegion_keeps names
  | acts caller r operation =>
    unfold act
    split <;> exact .of_fewer rfl fun h => h
  | dies thread => exact .of_fewer rfl fun h => h
  | makes name file => exact .create s.store name file
  | blocks name hentry => exact .block s.store name hentry
  | removes name => exact .erase s.store name
  | writes files => exact .write s.store files
  | passes host => exact .refl s.store

/-- What every step keeps, every history keeps. -/
theorem keeps_of_history (h : Relation.ReflTransGen Happens s s') : s.store.Keeps s'.store := by
  induction h with
  | refl => exact .refl s.store
  | tail _ hlast ih => exact ih.trans hlast.keeps

/-- Files that are opened under two names are the same only if the names are. -/
theorem eq_of_shared {a b : String} {id : Nat} (hnamed : s.store.Named)
    (hlater : s.store.Keeps s'.store) (ha : s.store.entries.get? a = some (.file id))
    (hb : s'.store.entries.get? b = some (.file id)) : a = b := by
  obtain ⟨-, hprecedes⟩ := hlater hnamed
  exact hnamed.unique ha (hprecedes.kept (hnamed.used ha) hb)

end System

/-! ## Names that the system takes for the same -/

theorem osName_eq (name : String) : osName name =
    if longestName < (flatName name).utf8ByteSize then .error (.nameTooLong (flatName name))
    else if (flatName name).toList.contains (Char.ofNat 0) then
      .error (.nameHasZero name
        (String.ofList ((flatName name).toList.takeWhile (· ≠ Char.ofNat 0))).utf8ByteSize)
    else .ok (flatName name) := rfl

/-- What is accepted is accepted of every name that the system is given in the same letters. -/
theorem osName_congr {name name' flat : String} (hsame : flatName name = flatName name')
    (h : osName name = .ok flat) : osName name' = .ok flat := by
  rw [osName_eq] at h ⊢
  rw [← hsame]
  split at h
  · cases h
  · next hshort =>
    split at h
    · cases h
    · next hplain => rw [if_neg hshort, if_neg hplain, h]

/-- What is opened as a mapping is a matter of the name that the system is given. -/
theorem SharedStore.openMapping_congr {s : SharedStore} {names names' : RegionNames}
    {opened : Nat × SharedStore} (hmapping : flatName names.mapping = flatName names'.mapping)
    (h : s.openMapping names = .ok opened) : s.openMapping names' = .ok opened := by
  unfold openMapping at h ⊢
  cases hname : osName names.mapping with
  | error e => rw [hname] at h; cases h
  | ok name =>
    rw [hname] at h
    rw [osName_congr hmapping hname]
    simp only [bind, Except.bind] at h ⊢
    cases hentry : s.entries.get? name with
    | none => simpa only [hentry] using h
    | some entry =>
      cases entry with
      | file id => simpa only [hentry] using h
      | _ => simp only [hentry] at h; cases h

namespace System

variable {s : System} {names names' : RegionNames} {timeout : Duration} {lock : Nat}
  {files : Nat × Nat}

/-- So is what is opened as a lock. -/
theorem openLock_congr (hlock : flatName names.lock = flatName names'.lock)
    (h : (s.openLock names timeout).1 = .ok lock) : (s.openLock names' timeout).1 = .ok lock := by
  unfold openLock SharedStore.unlink at h ⊢
  cases hname : osName names.lock with
  | error e => rw [hname] at h; cases h
  | ok name =>
    rw [hname] at h
    rw [osName_congr hlock hname]
    unfold openLockOnce at h ⊢
    cases hentry : s.store.entries.get? name with
    | none => simpa only [hentry] using h
    | some entry =>
      cases entry with
      | file id =>
        cases hready : SharedStore.isReady (s.store.file id).bytes with
        | true => simpa [hentry, hready] using h
        | false =>
          simpa [hentry, hready, bind, Except.bind, pure, Except.pure, Table.get?_erase] using h
      | _ => simp only [hentry] at h; cases h

/-- So a region is one and the same under all names that the system takes for the same. -/
theorem openRegion_congr (hmapping : flatName names.mapping = flatName names'.mapping)
    (hlock : flatName names.lock = flatName names'.lock)
    (h : (s.openRegion names timeout).1 = .ok files) :
    (s.openRegion names' timeout).1 = .ok files := by
  unfold openRegion at h ⊢
  cases hopened : s.store.openMapping names with
  | error e => rw [hopened] at h; cases h
  | ok opened =>
    obtain ⟨mapping, store⟩ := opened
    rw [hopened] at h
    rw [SharedStore.openMapping_congr hmapping hopened]
    dsimp only at h ⊢
    rcases hfirst : openLock { s with store } names timeout with ⟨result, s'⟩
    rw [hfirst] at h
    cases result with
    | error e => cases h
    | ok lock =>
      cases h
      have hsame := openLock_congr hlock (congrArg Prod.fst hfirst)
      rcases hsecond : openLock { s with store } names' timeout with ⟨result', s''⟩
      rw [hsecond] at hsame
      cases hsame
      rfl

end System

/-! ## Names that are refused -/

theorem osName_error {name : String} {e : RegionError} (h : osName name = .error e) :
    e.kind = .invalidName := by
  rw [osName_eq] at h
  split at h
  · cases h
    rfl
  · split at h
    · cases h
      rfl
    · cases h

/-- The first of the reasons for which the system would refuse the names of a configuration: the
mapping's name is too long, it holds a zero character, or the lock's name is too long. -/
def RegionConfig.nameFault (config : RegionConfig) : Option RegionError :=
  let names := RegionNames.ofConfig config
  let mapping := flatName names.mapping
  let lock := flatName names.lock
  if longestName < mapping.utf8ByteSize then some (.nameTooLong mapping)
  else if mapping.toList.contains (Char.ofNat 0) then
    some (.nameHasZero names.mapping
      (String.ofList (mapping.toList.takeWhile (· ≠ Char.ofNat 0))).utf8ByteSize)
  else if longestName < lock.utf8ByteSize then some (.nameTooLong lock)
  else none

/-- The names of a configuration are asked for one after the other. -/
theorem RegionConfig.nameFault_cases (config : RegionConfig) :
    (∃ e, osName (RegionNames.ofConfig config).mapping = .error e ∧
        config.nameFault = some e) ∨
      ∃ flat, osName (RegionNames.ofConfig config).mapping = .ok flat ∧
        ((∃ e, osName (RegionNames.ofConfig config).lock = .error e ∧
            config.nameFault = some e) ∨
          ∃ flat', osName (RegionNames.ofConfig config).lock = .ok flat' ∧
            config.nameFault = none) := by
  have hlock : flatName (RegionNames.ofConfig config).lock =
      flatName (RegionNames.ofConfig config).mapping ++ lockSuffix :=
    RegionNames.flatName_lock _ _ _
  rw [osName_eq, osName_eq, nameFault]
  by_cases hlong : longestName < (flatName (RegionNames.ofConfig config).mapping).utf8ByteSize
  · rw [if_pos hlong, if_pos hlong]
    exact .inl ⟨_, rfl, rfl⟩
  · rw [if_neg hlong, if_neg hlong]
    by_cases hzero : (flatName (RegionNames.ofConfig config).mapping).toList.contains
        (Char.ofNat 0) = true
    · rw [if_pos hzero, if_pos hzero]
      exact .inl ⟨_, rfl, rfl⟩
    · rw [if_neg hzero, if_neg hzero]
      -- the suffix of a lock adds no zero character
      have hzero' : ¬(flatName (RegionNames.ofConfig config).lock).toList.contains
          (Char.ofNat 0) = true := by
        rw [hlock, String.toList_append, List.contains_append, Bool.or_eq_true]
        exact not_or.mpr ⟨hzero, by decide⟩
      refine .inr ⟨_, rfl, ?_⟩
      by_cases hlong' : longestName < (flatName (RegionNames.ofConfig config).lock).utf8ByteSize
      · rw [if_pos hlong', if_pos hlong']
        exact .inl ⟨_, rfl, rfl⟩
      · rw [if_neg hlong', if_neg hlong', if_neg hzero']
        exact .inr ⟨_, rfl, rfl⟩

/-! ## Refused names, as a caller sees them -/

section Refused

variable {config : RegionConfig} {e : RegionError}

/-- An error about a name is passed on as it is. -/
theorem refused_iff {α : Type} {e' : RegionError} (hkind : e'.kind = .invalidName) :
    ((.error e' : Except RegionError α) = .error e ∧ e.kind = .invalidName) ↔
      some e' = some e := by
  rw [Except.error.injEq, Option.some.injEq]
  refine ⟨fun h => h.1, fun h => ⟨h, ?_⟩⟩
  rw [← h]
  exact hkind

/-- Nothing but a file is in the way where the mapping of a configuration belongs. -/
def SharedStore.ClearFor (s : SharedStore) (config : RegionConfig) : Prop :=
  ∀ flat, osName (RegionNames.ofConfig config).mapping = .ok flat →
    s.entries.get? flat ≠ some .directory ∧ s.entries.get? flat ≠ some .link

theorem SharedStore.openMapping_clear {s : SharedStore} {names : RegionNames} {flat : String}
    (hname : osName names.mapping = .ok flat)
    (hclear : s.entries.get? flat ≠ some .directory ∧ s.entries.get? flat ≠ some .link) :
    ∃ id s', s.openMapping names = .ok (id, s') := by
  unfold openMapping
  rw [hname]
  dsimp only [bind, Except.bind]
  split
  · exact ⟨_, _, rfl⟩
  · exact ⟨_, _, rfl⟩
  · exact absurd ‹_› hclear.1
  · exact absurd ‹_› hclear.2

/-- Opening a region is refused for its names exactly where one of them is. -/
theorem System.attach_refused_iff {s : System} (role : Role) (hclear : s.store.ClearFor config) :
    ((s.attach config role).1 = .error e ∧ e.kind = .invalidName) ↔
      config.nameFault = some e := by
  have hattach : (s.attach config role).1 = .error e ↔
      (s.openRegion (.ofConfig config) config.lockTimeout).1 = .error e := by
    unfold attach
    dsimp only
    generalize s.openRegion (.ofConfig config) config.lockTimeout = outcome
    obtain ⟨result, t⟩ := outcome
    cases result <;> simp
  rw [hattach]
  unfold openRegion
  rcases config.nameFault_cases with ⟨e', hname, hfault⟩ | ⟨flat, hname, hlock⟩
  · have hmapping : s.store.openMapping (.ofConfig config) = .error e' := by
      unfold SharedStore.openMapping
      rw [hname]
      rfl
    rw [hmapping, hfault]
    exact refused_iff (osName_error hname)
  · obtain ⟨id, store, hmapping⟩ := SharedStore.openMapping_clear hname (hclear flat hname)
    rw [hmapping]
    dsimp only
    rcases hlock with ⟨e', hlock, hfault⟩ | ⟨flat', hlock, hfault⟩
    · unfold openLock
      rw [hlock, hfault]
      exact refused_iff (osName_error hlock)
    · have hopens := openLock_opens (s := { s with store }) config.lockTimeout hlock
      rw [hfault]
      generalize openLock { s with store } _ _ = outcome at hopens
      obtain ⟨result, t⟩ := outcome
      refine ⟨fun ⟨h, hkind⟩ => ?_, fun h => by cases h⟩
      cases result with
      | error e' =>
        cases h
        exact absurd hkind (hopens.error e rfl)
      | ok id' => cases h

/-- So is unlinking it. -/
theorem SharedStore.unlinkRegion_refused_iff {s : SharedStore}
    (hclear : ∀ flat, osName (RegionNames.ofConfig config).mapping = .ok flat →
      s.entries.get? flat ≠ some .directory) :
    ((s.unlinkRegion (.ofConfig config)).1 = .error e ∧ e.kind = .invalidName) ↔
      config.nameFault = some e := by
  unfold unlinkRegion
  have hmapping := s.unlink_cases (RegionNames.ofConfig config).mapping
  rcases config.nameFault_cases with ⟨e', hname, hfault⟩ | ⟨flat, hname, hfault⟩
  · rcases hmapping with ⟨e'', hname', hunlink⟩ | ⟨flat, hname', -⟩
    · cases hname.symm.trans hname'
      rw [hunlink, hfault]
      exact refused_iff (osName_error hname)
    · cases hname.symm.trans hname'
  · rcases hmapping with ⟨e', hname', -⟩ | ⟨flat', hname', ⟨hdirectory, -⟩ | ⟨-, hunlink⟩⟩
    · cases hname.symm.trans hname'
    · exact absurd hdirectory (hclear flat' hname')
    · rw [hunlink]
      dsimp only
      have hlock := SharedStore.unlink_cases { s with entries := s.entries.erase flat' }
        (RegionNames.ofConfig config).lock
      rcases hfault with ⟨e', hlockname, hfault⟩ | ⟨flat'', hlockname, hfault⟩
      · rcases hlock with ⟨e'', hname'', hunlink'⟩ | ⟨flat'', hname'', -⟩
        · cases hlockname.symm.trans hname''
          rw [hunlink', hfault]
          exact refused_iff (osName_error hlockname)
        · cases hlockname.symm.trans hname''
      · rw [hfault]
        refine ⟨fun ⟨h, hkind⟩ => ?_, fun h => by cases h⟩
        rcases hlock with ⟨e', hname'', -⟩ | ⟨_, -, ⟨-, hunlink'⟩ | ⟨-, hunlink'⟩⟩
        · cases hlockname.symm.trans hname''
        · rw [hunlink'] at h
          cases h
          cases hkind
        · rw [hunlink'] at h
          cases h

end Refused

/-- A writer that cannot start could not take the lock. -/
theorem Writer.attach_error {w : Writer} {s s' : Site} {failure : Failure}
    (hdepth : s.book.depth = 0) (hholder : s.book.holder = none)
    (h : w.attach s = .error failure s') : ∃ t, w.lock .blocking s = .error failure t := by
  by_cases htakes : w.Takes .blocking s
  · obtain ⟨session, t, hresult, -⟩ := locked_taken htakes hdepth hholder
      fun t _ => w.takeOver_yields t
    rw [attach, Act.bind_ok (Act.attempt_ok hresult)] at h
    cases h
  · cases hlock : w.lock .blocking s with
    | ok acquired t =>
      cases acquired with
      | busy =>
        have hasks := w.asks .blocking s
        rw [hlock] at hasks
        cases hasks with
        | busy hmode => cases hmode
      | held abandoned => exact absurd ⟨abandoned, t, hlock⟩ htakes
    | error failure' t =>
      have hresult : w.locked .blocking w.takeOver s = .error failure' t := by
        rw [locked_eq_underLock, Act.underLock, Act.bind_error hlock]
      rw [attach, Act.bind_ok (Act.attempt_error hresult)] at h
      replace h : (Act.attempt w.close >>= fun _ => throw failure') t = .error failure s' := h
      have hsame : failure' = failure := by
        cases hclose : w.close t with
        | ok a u =>
          rw [Act.bind_ok (Act.attempt_ok hclose)] at h
          cases h
          rfl
        | error failure'' u =>
          rw [Act.bind_ok (Act.attempt_error hclose)] at h
          cases h
          rfl
      exact ⟨t, by rw [hsame]⟩

/-- No lock is refused for its name. -/
theorem Writer.attach_error_kind {w : Writer} {s s' : Site} {e : RegionError}
    (hdepth : s.book.depth = 0) (hholder : s.book.holder = none)
    (h : w.attach s = .error (.error e) s') : e.kind ≠ .invalidName := by
  obtain ⟨t, hlock⟩ := attach_error hdepth hholder h
  have hasks := w.asks .blocking s
  rw [hlock] at hasks
  cases hasks with
  | deadlock => simp [RegionError.kind]

namespace World

variable {caller : Thread} {id : String} {config : RegionConfig} {w : World} {e : RegionError}

theorem attach_book {s s' : System} {role : Role} {region : OpenRegion}
    (h : s.attach config role = (.ok region, s')) : region.book = .fresh role := by
  unfold System.attach at h
  dsimp only at h
  split at h
  · cases h
  · cases h
    rfl

/-! ### Replies -/

theorem bind_apply {α β : Type} (first : Play α) (next : α → Play β) (w : World) :
    (first >>= next) w = next (first w).1 (first w).2 := rfl

theorem get_apply (w : World) : (get : Play World) w = (w, w) := rfl

theorem set_apply (w w' : World) : (set w' : Play PUnit) w = (⟨⟩, w') := rfl

theorem attach_apply (config : RegionConfig) (role : Role) (w : World) :
    attach config role w =
      ((w.system.attach config role).1, { w with system := (w.system.attach config role).2 }) :=
  rfl

theorem openReader_failed_iff {body : Body} :
    (openReader caller id config body w).1 = .failed (.error e) ↔
      (w.system.attach config .reader).1 = .error e := by
  rw [openReader, bind_apply, attach_apply]
  dsimp only
  cases (w.system.attach config .reader).1 with
  | error e' =>
    show Reply.failed (.error e') = Reply.failed (.error e) ↔ _
    rw [Reply.failed.injEq, Failure.error.injEq, Except.error.injEq]
  | ok region => exact ⟨fun h => (nomatch h), fun h => (nomatch h)⟩

theorem openCached_failed_iff {kind : ConsumerKind} :
    (openCached caller id config kind w).1 = .failed (.error e) ↔
      (w.system.attach config .reader).1 = .error e := by
  have hopened : (openReader caller id config (.cached (.fresh kind) w.nextCopier) w).1 =
      .failed (.error e) ↔ _ := openReader_failed_iff
  have hreply : (openCached caller id config kind w).1 =
      (openReader caller id config (.cached (.fresh kind) w.nextCopier) w).1 := by
    rw [openCached, bind_apply]
    show ((openReader caller id config (.cached (.fresh kind) w.nextCopier) >>= _) w).1 = _
    rw [bind_apply]
    by_cases hdone : (openReader caller id config (.cached (.fresh kind) w.nextCopier) w).1 = .done
    · rw [if_pos hdone]
      rfl
    · rw [if_neg hdone]
      rfl
  rw [hreply, hopened]

/-- A writer is opened in two parts, and the second is never refused for a name. -/
theorem openWriter_refused_iff {gpu : UInt64} :
    ((openWriter caller id config gpu w).1 = .failed (.error e) ∧ e.kind = .invalidName) ↔
      (w.system.attach config .writer).1 = .error e ∧ e.kind = .invalidName := by
  rw [openWriter, bind_apply, attach_apply]
  rcases hattach : w.system.attach config .writer with ⟨result, t⟩
  dsimp only
  cases result with
  | error e' =>
    show Reply.failed (.error e') = Reply.failed (.error e) ∧ _ ↔ _
    rw [Reply.failed.injEq, Failure.error.injEq, Except.error.injEq]
  | ok region =>
    refine ⟨fun ⟨h, hkind⟩ => ?_, fun ⟨h, _⟩ => (nomatch h)⟩
    have hbook : region.book = .fresh .writer := attach_book hattach
    dsimp only at h
    rw [bind_apply, get_apply] at h
    dsimp only at h
    rw [bind_apply, set_apply] at h
    dsimp only at h
    rcases hact : t.act caller region (Writer.attach ⟨gpu, caller.pid⟩) with ⟨outcome, region', t'⟩
    rw [hact] at h
    cases outcome with
    | ok a => cases h
    | error failure =>
      obtain ⟨site, hresult, -, -⟩ := System.act_eq_error ∅ [] hact
      rw [hbook] at hresult
      cases h
      exact absurd hkind (Writer.attach_error_kind rfl rfl hresult)

/-- The commands that open a region. -/
def opens? : Command → Option RegionConfig
  | .openWriter _ config _ => some config
  | .openReader _ config => some config
  | .openCached _ config _ => some config
  | _ => none

/-- Whatever opens a region is refused for its names exactly where one of them is. -/
theorem perform_refused_iff {command : Command} (hopens : opens? command = some config)
    (hclear : w.system.store.ClearFor config) :
    ((perform caller command w).1 = .failed (.error e) ∧ e.kind = .invalidName) ↔
      config.nameFault = some e := by
  cases command with
  | openWriter id config' gpu =>
    cases hopens
    exact openWriter_refused_iff.trans (System.attach_refused_iff .writer hclear)
  | openReader id config' =>
    cases hopens
    rw [← System.attach_refused_iff .reader hclear, ← openReader_failed_iff]
    rfl
  | openCached id config' kind =>
    cases hopens
    rw [← System.attach_refused_iff .reader hclear, ← openCached_failed_iff]
    rfl
  | _ => cases hopens

end World

/-! ## The meeting place -/

namespace RegionNames

/-- Programs meet under a name exactly where they agree, if the system is given the names of
products with their letters `replaced`. -/
structure Rendezvous (replaced : String → String) : Prop where
  /-- As they are written, two names are the same for one product, version and header size only,
  and no mapping has the name of a lock. -/
  written : ∀ (p q : String) (v w : SoftwareVersion) (m n : Nat),
    ((of p v m).mapping = (of q w n).mapping ↔ p = q ∧ v = w ∧ m = n) ∧
    ((of p v m).lock = (of q w n).lock ↔ p = q ∧ v = w ∧ m = n) ∧
    (of p v m).mapping ≠ (of q w n).lock
  /-- Names of mappings that the system accepts are the same where version and size are, and the
  products but for their separators. -/
  mappings : ∀ {p q : String} {v w : SoftwareVersion} {m n : Nat} {a b : String},
    osName (of p v m).mapping = .ok a → osName (of q w n).mapping = .ok b →
      (a = b ↔ v = w ∧ m = n ∧ replaced p = replaced q)
  /-- Names of locks are the same exactly then. -/
  locks : ∀ {p q : String} {v w : SoftwareVersion} {m n : Nat} {a b : String},
    osName (of p v m).lock = .ok a → osName (of q w n).lock = .ok b →
      (a = b ↔ v = w ∧ m = n ∧ replaced p = replaced q)
  /-- The system, too, knows no mapping by the name of a lock. -/
  apart : ∀ {p q : String} {v w : SoftwareVersion} {m n : Nat} {a b : String},
    osName (of p v m).mapping = .ok a → osName (of q w n).lock = .ok b → a ≠ b
  /-- So whatever happens before and in between, two objects have a file in common only where they
  were opened with one version and size, and never one object's mapping as the other's lock. -/
  shared : ∀ {p q : String} {v w : SoftwareVersion} {m n : Nat} {timeout timeout' : Duration}
    {start first first' second second' : System} {mapping lock mapping' lock' : Nat},
    start.store = .empty → Relation.ReflTransGen System.Happens start first →
    first.openRegion (of p v m) timeout = (.ok (mapping, lock), first') →
    Relation.ReflTransGen System.Happens first' second →
    second.openRegion (of q w n) timeout' = (.ok (mapping', lock'), second') →
      (mapping = mapping' ∨ lock = lock' → v = w ∧ m = n ∧ replaced p = replaced q) ∧
      mapping ≠ lock ∧ mapping ≠ lock' ∧ lock ≠ mapping'
  /-- And where they were, whatever one of them would open now the other would open, too. -/
  same : ∀ {p q : String} {v : SoftwareVersion} {m : Nat} {timeout : Duration} {s : System}
    {files : Nat × Nat}, replaced p = replaced q →
      (s.openRegion (of p v m) timeout).1 = .ok files →
      (s.openRegion (of q v m) timeout).1 = .ok files
  /-- A command that opens a region is refused for its names exactly where one of them is. -/
  opening : ∀ {config : RegionConfig} {world : World} {command : Command} (caller : Thread)
    (e : RegionError), World.opens? command = some config →
    world.system.store.ClearFor config →
      (((World.perform caller command).run world).1 = .failed (.error e) ∧
        e.kind = .invalidName ↔ config.nameFault = some e)
  /-- So is a command that takes the names away. -/
  unlinking : ∀ {config : RegionConfig} {world : World} (caller : Thread) (e : RegionError),
    (∀ flat, osName (ofConfig config).mapping = .ok flat →
      world.system.store.entries.get? flat ≠ some .directory) →
      (((World.perform caller (.unlink config)).run world).1 = .failed (.error e) ∧
        e.kind = .invalidName ↔ config.nameFault = some e)

/-- Every slash, forward or backward, becomes an underline, and nothing else is replaced. -/
theorem rendezvous :
    Rendezvous (·.map fun c => if c = '/' ∨ c = '\\' then '_' else c) where
  written _ _ _ _ _ _ := ⟨of_mapping_iff, of_lock_iff, mapping_ne_lock⟩
  mappings ha hb := by
    rw [osName_ok ha, osName_ok hb]
    exact flatMapping_iff
  locks ha hb := by
    rw [osName_ok ha, osName_ok hb]
    exact flatLock_iff
  apart ha hb := by
    rw [osName_ok ha, osName_ok hb]
    exact flatMapping_ne_flatLock
  shared {p q v w m n timeout timeout' start first first' second second' mapping lock mapping'
      lock'} hstart hbefore hfirst hbetween hsecond := by
    have hnamed : first'.store.Named := by
      have hempty : start.store.Named := by
        rw [hstart]
        exact ⟨fun h => (nomatch h), fun h => (nomatch h)⟩
      have hopened : first.Happens first' := by
        have := System.Happens.opens (s := first) (of p v m) timeout
        rwa [hfirst] at this
      exact (System.keeps_of_history (hbefore.tail hopened) hempty).1
    have hlater : first'.store.Keeps second'.store := by
      have hopened : second.Happens second' := by
        have := System.Happens.opens (s := second) (of q w n) timeout'
        rwa [hsecond] at this
      exact System.keeps_of_history (hbetween.tail hopened)
    obtain ⟨hmapping, hlock⟩ := System.openRegion_ok flatMapping_ne_flatLock hfirst
    obtain ⟨hmapping', hlock'⟩ := System.openRegion_ok flatMapping_ne_flatLock hsecond
    refine ⟨?_, ?_, ?_, ?_⟩
    · rintro (rfl | rfl)
      · exact flatMapping_iff.mp (System.eq_of_shared hnamed hlater hmapping hmapping')
      · exact flatLock_iff.mp (System.eq_of_shared hnamed hlater hlock hlock')
    · rintro rfl
      exact flatMapping_ne_flatLock (hnamed.unique hmapping hlock)
    · rintro rfl
      exact flatMapping_ne_flatLock (System.eq_of_shared hnamed hlater hmapping hlock')
    · rintro rfl
      exact flatMapping_ne_flatLock (System.eq_of_shared hnamed hlater hlock hmapping').symm
  same hreplaced h := System.openRegion_congr (flatMapping_iff.mpr ⟨rfl, rfl, hreplaced⟩)
    (flatLock_iff.mpr ⟨rfl, rfl, hreplaced⟩) h
  opening caller e hopens hclear := World.perform_refused_iff hopens hclear
  unlinking {config world} caller e hclear := by
    rw [← SharedStore.unlinkRegion_refused_iff hclear]
    rcases hunlink : world.system.store.unlinkRegion (ofConfig config) with ⟨result, store⟩
    show (World.unlink config world).1 = _ ∧ _ ↔ _
    rw [World.unlink, World.bind_apply, World.get_apply]
    dsimp only
    rw [World.bind_apply, World.set_apply, hunlink]
    cases result with
    | ok a => exact ⟨fun h => (nomatch h.1), fun h => (nomatch h.1)⟩
    | error error =>
      show Reply.failed (.error error) = Reply.failed (.error e) ∧ _ ↔ _
      rw [Reply.failed.injEq, Failure.error.injEq, Except.error.injEq]

/-- A world in which nothing was opened yet. -/
def unvisited : World := .initial 7 [] UInt32.ofNat

/-- Two versions of a product have no file in common, and two products that differ in a slash have
both. Where the product holds a zero character the region is neither opened nor taken away, for the
same reason. -/
theorem rendezvous_slashes : ∃ a b s s' files e,
    osName (of "a/b" ⟨0, 2, 0, 0⟩ 1408).mapping = .ok a ∧
    osName (of "a\\b" ⟨0, 2, 0, 0⟩ 1408).mapping = .ok a ∧
    osName (of "a/b" ⟨0, 3, 0, 0⟩ 1408).mapping = .ok b ∧ a ≠ b ∧
    unvisited.system.openRegion (of "a/b" ⟨0, 2, 0, 0⟩ 1408) (.ofMilliseconds 20) =
      (.ok (0, 1), s) ∧
    s.openRegion (of "a/b" ⟨0, 3, 0, 0⟩ 1408) (.ofMilliseconds 20) = (.ok files, s') ∧
    files.1 ≠ 0 ∧ files.2 ≠ 1 ∧
    (s'.openRegion (of "a\\b" ⟨0, 2, 0, 0⟩ 1408) (.ofMilliseconds 20)).1 = .ok (0, 1) ∧
    e.kind = .invalidName ∧
    ((World.perform ⟨7, 0⟩ (.openReader "r" (.ofProduct "a\x00b"))).run unvisited).1 =
      .failed (.error e) ∧
    ((World.perform ⟨7, 0⟩ (.unlink (.ofProduct "a\x00b"))).run unvisited).1 =
      .failed (.error e) := by
  -- both slashes become the same underline
  have hforward : osName (of "a/b" ⟨0, 2, 0, 0⟩ 1408).mapping = .ok "/a_b_0.2.0.0-s580" := by
    decide +kernel
  obtain ⟨a, hbackward⟩ : ∃ a, osName (of "a\\b" ⟨0, 2, 0, 0⟩ 1408).mapping = .ok a :=
    ⟨"/a_b_0.2.0.0-s580", by decide +kernel⟩
  have hnext : osName (of "a/b" ⟨0, 3, 0, 0⟩ 1408).mapping = .ok "/a_b_0.3.0.0-s580" := by
    decide +kernel
  obtain rfl := (rendezvous.mappings hforward hbackward).mpr ⟨rfl, rfl, by decide +kernel⟩
  have hother : "/a_b_0.2.0.0-s580" ≠ "/a_b_0.3.0.0-s580" := fun heq =>
    absurd ((rendezvous.mappings hforward hnext).mp heq).1 (by decide)
  -- three openings, one after the other
  generalize hfirst : unvisited.system.openRegion (of "a/b" ⟨0, 2, 0, 0⟩ 1408)
    (.ofMilliseconds 20) = first
  generalize hsecond : first.2.openRegion (of "a/b" ⟨0, 3, 0, 0⟩ 1408) (.ofMilliseconds 20) =
    second
  have hopened : first.1 = .ok (0, 1) ∧ second.1 = .ok (2, 3) ∧
      (second.2.openRegion (of "a/b" ⟨0, 2, 0, 0⟩ 1408) (.ofMilliseconds 20)).1 = .ok (0, 1) := by
    subst hsecond hfirst
    decide +kernel
  obtain ⟨result, s⟩ := first
  obtain ⟨result', s'⟩ := second
  obtain ⟨rfl, rfl, hagain⟩ := hopened
  have hthird := rendezvous.same (q := "a\\b") (by decide +kernel) hagain
  obtain ⟨hshared, -, -⟩ := rendezvous.shared rfl .refl hfirst .refl hsecond
  obtain ⟨hmappings, hlocks⟩ := not_or.mp fun hsame => absurd (hshared hsame).1 (by decide)
  -- a zero character is in the way of opening as it is of taking away
  obtain ⟨e, hfault, hkind⟩ : ∃ e, (RegionConfig.ofProduct "a\x00b").nameFault = some e ∧
      e.kind = .invalidName := Option.map_eq_some_iff.mp (by decide +kernel)
  have hclear (flat : String) : unvisited.system.store.entries.get? flat = none := rfl
  have hopen : ((World.perform ⟨7, 0⟩ (.openReader "r" (.ofProduct "a\x00b"))).run unvisited).1 =
      .failed (.error e) ∧ e.kind = .invalidName :=
    (rendezvous.opening ⟨7, 0⟩ e rfl fun flat _ => by simp [hclear]).mpr hfault
  have hunlink : ((World.perform ⟨7, 0⟩ (.unlink (.ofProduct "a\x00b"))).run unvisited).1 =
      .failed (.error e) ∧ e.kind = .invalidName :=
    (rendezvous.unlinking ⟨7, 0⟩ e fun flat _ => by simp [hclear]).mpr hfault
  exact ⟨_, _, s, s', (2, 3), e, hforward, hbackward, hnext, hother, rfl, hsecond,
    Ne.symm hmappings, Ne.symm hlocks, hthird, hkind, hopen.1, hunlink.1⟩

end RegionNames

end FrameExchange
