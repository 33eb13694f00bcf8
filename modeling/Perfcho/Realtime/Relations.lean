import Perfcho.Realtime.Currency

/-! The two sides of a relation agree. Every relation that is not over is listed among
the viewers of its host, and both of its epochs are current for at least as long, so that
an epoch that ends finds all of its relations. -/

namespace Perfcho.Realtime

open Foundation Keyspace Function Option
open SortedSet (mem_refresh mem_remove mem_add mem_members)

variable {lua : Lua} {limits : Limits} {store : Store} {loose : String → Prop}

/-- A relation, its two epochs and the viewers of its host. The deadline of the viewers of a
loose host is about to be set. -/
structure Link (loose : String → Prop) (store : Store) (spectator : String) (relation : Relation)
    (deadline : Nat) : Prop where
  live : store.clock < deadline
  expiry : relation.expiresAt = deadline
  named : relation.spectator = spectator
  hosted : ∃ limit, deadline ≤ limit ∧ store.epochs relation.host = some ⟨relation.hostEpoch, limit⟩
  watched : ∃ limit, deadline ≤ limit ∧ store.epochs spectator = some ⟨relation.spectatorEpoch, limit⟩
  listed : (spectator, deadline) ∈ (store.viewers relation.host).entries
  kept : ¬ loose relation.host → ∃ limit, deadline ≤ limit ∧
    (store.viewers relation.host).deadline = some limit

def Linked (loose : String → Prop) (store : Store) : Prop :=
  ∀ ⦃spectator relation deadline⦄, store.relations spectator = some ⟨relation, deadline⟩ →
    Link loose store spectator relation deadline

/-- The current epoch of an account is the one of its session, with the same expiry. -/
def Paired (store : Store) : Prop :=
  ∀ ⦃account epoch deadline⦄, store.epochs account = some ⟨epoch, deadline⟩ →
    ∃ revision durable, store.sessions epoch.session = some ⟨⟨account, revision, deadline, durable⟩, deadline⟩

/-- No relation has the account as its host. -/
def Unwatched (account : String) (store : Store) : Prop :=
  ∀ ⦃spectator relation⦄, store.relations.get spectator = some relation → relation.host ≠ account

theorem Paired.unique (paired : Paired store) (first : store.epochs.get account = some epoch)
    (second : store.epochs.get other = some found) (same : epoch.session = found.session) :
    account = other := by
  obtain ⟨_, first⟩ := get_eq_some.mp first
  obtain ⟨_, second⟩ := get_eq_some.mp second
  obtain ⟨_, _, left⟩ := paired first
  obtain ⟨_, _, right⟩ := paired second
  rw [same, right] at left
  exact (congrArg (·.value.account) (some.inj left)).symm

theorem Paired.valid (paired : Paired store)
    (valid : sessionStatus store account epoch now = .ok (expiry, durable)) :
    store.epochs account = some ⟨epoch, expiry⟩ := by
  obtain ⟨current, session, _⟩ := sessionStatus_eq_ok.mp valid
  obtain ⟨deadline, current⟩ := get_eq_some.mp current
  obtain ⟨_, _, found⟩ := paired current
  rw [Keyspace.get, found] at session
  obtain rfl : deadline = expiry := congrArg Session.expiresAt (some.inj session)
  exact current

theorem Paired.of_same (paired : Paired store) (same : Part.sessions.Same store after) : Paired after := by
  unfold Paired
  rw [same.1, same.2.1]
  exact paired

theorem Paired.opened (paired : Paired store)
    (opened : Opened lua limits call store after revision expiry) : Paired after := by
  intro account epoch deadline current
  rw [opened.epochs] at current
  by_cases same : account = call.account
  · subst same
    rw [put_same] at current
    cases current
    exact ⟨_, _, opened.opened⟩
  · rw [put_other same] at current
    obtain ⟨text, durable, found⟩ := paired current
    have different : epoch.session ≠ call.session := by
      intro equal
      have owner := opened.free _ (get_eq_some.mpr ⟨_, equal ▸ found⟩)
      exact same owner
    refine ⟨text, durable, (opened.kept _ different ?_).trans found⟩
    intro old held equal
    exact same (paired.unique (get_eq_some.mpr ⟨_, current⟩) held equal)

theorem Paired.renewed {call : HeartbeatCall} (paired : Paired store)
    (valid : sessionStatus store call.account call.epoch store.clock = .ok (present, durable))
    (sessions : after.sessions = store.sessions.put call.epoch.session ⟨call.account, text, expiry,
      durable⟩ expiry)
    (epochs : after.epochs = store.epochs.touch call.account expiry) : Paired after := by
  have held := paired.valid valid
  intro account epoch deadline current
  rw [epochs] at current
  rw [sessions]
  by_cases same : account = call.account
  · subst same
    rw [touch_same, held] at current
    cases current
    exact ⟨_, _, put_same⟩
  · rw [touch_other same] at current
    have different : epoch.session ≠ call.epoch.session := fun equal =>
      same (paired.unique (get_eq_some.mpr ⟨_, current⟩) (get_eq_some.mpr ⟨_, held⟩) equal)
    rw [put_other different]
    exact paired current

theorem Paired.fenced (paired : Paired store) (fenced : Fenced account epoch store after) : Paired after := by
  obtain ⟨expiry, durable, valid⟩ := fenced.valid
  have held := paired.valid valid
  intro other found deadline current
  rw [fenced.epochs] at current
  obtain ⟨different, current⟩ := of_drop current
  have apart : found.session ≠ epoch.session := fun equal =>
    different (paired.unique (get_eq_some.mpr ⟨_, current⟩) (get_eq_some.mpr ⟨_, held⟩) equal)
  rw [fenced.sessions, drop_other apart]
  exact paired current

theorem Paired.advance (paired : Paired store) (now : Nat) : Paired (store.advance now) := by
  intro account epoch deadline current
  obtain ⟨current, live⟩ := purge_eq_some.mp current
  obtain ⟨revision, durable, found⟩ := paired current
  exact ⟨revision, durable, purge_eq_some.mpr ⟨found, live⟩⟩

theorem Paired.step (paired : Paired store) (step : Step lua limits allowed store after) : Paired after := by
  cases step with
  | call call _ =>
    rcases call.run_cases lua limits store with ⟨parts, outside, touches⟩ | ⟨_, _, _, rfl, opened⟩ |
      ⟨_, _, rfl, renewed⟩ | ⟨_, _, rfl, fenced⟩
    · exact paired.of_same (touches.others _ outside)
    · exact paired.opened opened
    · obtain ⟨_, _, valid, _, _, sessions⟩ := renewed.valid
      exact paired.renewed valid sessions renewed.epochs
    · exact paired.fenced fenced
  | advance now _ => exact paired.advance now

theorem Link.carry (link : Link loose store spectator relation deadline) (clock : after.clock = store.clock)
    (epochs : after.epochs = store.epochs)
    (listed : (spectator, deadline) ∈ (after.viewers relation.host).entries)
    (kept : ¬ more relation.host → ∃ limit, deadline ≤ limit ∧
      (after.viewers relation.host).deadline = some limit) : Link more after spectator relation deadline :=
  ⟨clock ▸ link.live, link.expiry, link.named, epochs ▸ link.hosted, epochs ▸ link.watched, listed, kept⟩

theorem Link.update (link : Link loose store spectator relation deadline)
    (clock : after.clock = store.clock) (epochs : after.epochs = store.epochs)
    (edited : after.viewers = update store.viewers host viewers)
    (listed : relation.host = host → (spectator, deadline) ∈ viewers.entries)
    (kept : relation.host = host → ¬ more host → ∃ limit, deadline ≤ limit ∧ viewers.deadline = some limit)
    (looser : relation.host ≠ host → loose relation.host → more relation.host) :
    Link more after spectator relation deadline := by
  by_cases same : relation.host = host
  · have here : after.viewers relation.host = viewers := by
      rw [edited, same, update_self]
    exact link.carry clock epochs (here ▸ listed same) (here ▸ same ▸ kept same)
  · have elsewhere : after.viewers relation.host = store.viewers relation.host := by
      rw [edited, update_of_ne same]
    exact link.carry clock epochs (elsewhere ▸ link.listed) fun tight =>
      elsewhere ▸ link.kept fun loosened => tight (looser same loosened)

theorem Link.refresh {viewers : AccountSet} (link : Link loose store spectator relation deadline)
    (clock : after.clock = store.clock) (epochs : after.epochs = store.epochs)
    (edited : after.viewers = Function.update store.viewers host (viewers.refresh store.clock))
    (listed : relation.host = host → (spectator, deadline) ∈ viewers.entries)
    (looser : relation.host ≠ host → loose relation.host → more relation.host) :
    Link more after spectator relation deadline := by
  refine link.update clock epochs edited ?_ ?_ looser
  · intro same
    exact (mem_refresh (listed same) link.live).1
  · intro same _
    obtain ⟨_, limit, timed, bounded⟩ := mem_refresh (listed same) link.live
    exact ⟨limit, bounded, timed⟩

theorem Linked.of_same (linked : Linked loose store) (clock : after.clock = store.clock)
    (epochs : after.epochs = store.epochs) (same : Part.relations.Same store after) : Linked loose after := by
  obtain ⟨relations, _, viewers⟩ := same
  intro spectator relation deadline stored
  rw [relations] at stored
  have link := linked stored
  exact link.carry clock epochs (viewers ▸ link.listed) (viewers ▸ link.kept)

theorem Linked.current (linked : Linked loose store) (found : store.relations.get spectator = some relation) :
    store.epochs.get relation.host = some relation.hostEpoch := by
  obtain ⟨deadline, stored⟩ := get_eq_some.mp found
  obtain ⟨limit, _, hosted⟩ := (linked stored).hosted
  exact get_eq_some.mpr ⟨limit, hosted⟩

theorem Linked.drop (linked : Linked loose store) (spectator : String) :
    Linked loose { store with relations := store.relations.drop spectator } := by
  intro other relation deadline stored
  have link := linked (of_drop stored).2
  exact link.carry rfl rfl link.listed link.kept

theorem Linked.unwatch (linked : Linked loose store) (host spectator : String) :
    Linked loose { store.removeViewer host spectator with relations := store.relations.drop spectator } := by
  intro other relation deadline stored
  obtain ⟨different, stored⟩ := of_drop stored
  have link := linked stored
  refine link.refresh rfl rfl rfl ?_ fun _ loosened => loosened
  rintro rfl
  exact mem_remove.mpr ⟨link.listed, different⟩

theorem Linked.watch (linked : Linked loose store) (relation : Relation) (live : store.clock < deadline)
    (expiry : relation.expiresAt = deadline) (named : relation.spectator = spectator)
    (hosted : ∃ limit, deadline ≤ limit ∧ store.epochs relation.host = some ⟨relation.hostEpoch, limit⟩)
    (watched : ∃ limit, deadline ≤ limit ∧ store.epochs spectator = some ⟨relation.spectatorEpoch, limit⟩)
    (clock : after.clock = store.clock) (epochs : after.epochs = store.epochs)
    (related : after.relations = store.relations.put spectator relation deadline)
    (edited : after.viewers = update store.viewers relation.host
      (((store.viewers relation.host).add spectator deadline).refresh store.clock)) : Linked loose after := by
  intro other found limit stored
  rw [related] at stored
  by_cases same : other = spectator
  · subst same
    rw [put_same] at stored
    cases stored
    have added : (other, deadline) ∈ ((store.viewers relation.host).add other deadline).entries :=
      mem_add.mpr (.inl rfl)
    obtain ⟨listed, limit, timed, bounded⟩ := mem_refresh added live
    have viewers := (congrFun edited relation.host).trans (update_self ..)
    exact ⟨clock ▸ live, expiry, named, epochs ▸ hosted, epochs ▸ watched, viewers ▸ listed,
      fun _ => ⟨limit, bounded, viewers ▸ timed⟩⟩
  · rw [put_other same] at stored
    have link := linked stored
    refine link.refresh clock epochs edited ?_ fun _ loosened => loosened
    intro shared
    exact mem_add.mpr (.inr ⟨shared ▸ link.listed, same⟩)

/-- The deadline of the viewers of a loose host is set. -/
theorem Linked.tighten (linked : Linked (· = host) store) : Linked (fun _ => False)
    (store.refreshViewers host) := by
  intro other relation deadline stored
  have link := linked stored
  refine link.refresh rfl rfl rfl ?_ fun different loosened => different loosened
  rintro rfl
  exact link.listed

theorem Linked.loosen (linked : Linked (fun _ => False) store) : Linked loose store := by
  intro spectator relation deadline stored
  have link := linked stored
  exact link.carry rfl rfl link.listed fun _ => link.kept not_false

/-- A viewer is taken out, with its relation if it has one with the host. -/
theorem Linked.prune (linked : Linked (· = host) store) (clock : after.clock = store.clock)
    (epochs : after.epochs = store.epochs)
    (edited : after.viewers = update store.viewers host ((store.viewers host).remove spectator))
    (only : ∀ other entry, after.relations other = some entry → store.relations other = some entry)
    (gone : ∀ relation, after.relations.get spectator = some relation → relation.host ≠ host) :
    Linked (· = host) after := by
  intro other relation deadline stored
  have link := linked (only other _ stored)
  refine link.update clock epochs edited ?_ (fun _ tight => absurd rfl tight) fun _ loosened => loosened
  intro here
  have different : other ≠ spectator := by
    rintro rfl
    exact gone relation (get_eq_some.mpr ⟨_, stored⟩) here
  exact mem_remove.mpr ⟨here ▸ link.listed, different⟩

section

variable {account host : String} {epoch : Epoch}

theorem Linked.endWatching (linked : Linked loose store) :
    Linked loose (store.endWatching account epoch) := by
  unfold Store.endWatching
  split
  · exact linked
  · split
    · exact linked.unwatch _ _
    · exact linked

theorem of_dropRelation (found : (store.dropRelation epoch spectator).relations other = some entry) :
    store.relations other = some entry ∧ (other = spectator → entry.value.hostEpoch ≠ epoch) := by
  unfold Store.dropRelation at found
  split at found
  · obtain ⟨different, found⟩ := of_drop found
    exact ⟨found, fun same => absurd same different⟩
  · next unowned =>
    refine ⟨found, ?_⟩
    rintro rfl owned
    simp [Keyspace.get, show store.relations other = _ from found, owned] at unowned

theorem Linked.pruneViewer (linked : Linked (· = host) store) (current : store.epochs.get host = some epoch) :
    Linked (· = host) (store.pruneViewer host epoch spectator) := by
  have touches : Touches [.relations] store (store.dropRelation epoch spectator) :=
    dropRelation_touches store spectator
  refine linked.prune touches.clock (touches.others .sessions (by simp)).2.1 rfl ?_ ?_
  · intro other entry stored
    exact (of_dropRelation stored).1
  · rintro relation found rfl
    obtain ⟨deadline, stored⟩ := get_eq_some.mp found
    obtain ⟨stored, unowned⟩ := of_dropRelation stored
    have same := (linked.current (get_eq_some.mpr ⟨_, stored⟩)).symm.trans current
    exact unowned rfl (some.inj same)

theorem Linked.pruneRecipient (linked : Linked (· = host) store)
    (current : store.epochs.get host = some epoch) : Linked (· = host)
    (pruneRecipient host epoch store spectator) := by
  unfold Realtime.pruneRecipient
  split
  · refine linked.prune rfl rfl rfl (fun _ _ stored => (Keyspace.of_drop stored).2) ?_
    intro relation found
    simp [Keyspace.get] at found
  · next unowned =>
    refine linked.prune rfl rfl rfl (fun _ _ stored => stored) ?_
    rintro relation found rfl
    have same := (linked.current found).symm.trans current
    simp [found, some.inj same] at unowned

theorem Linked.renewRelation (linked : Linked loose store) (paired : Paired store)
    (held : store.epochs account = some ⟨epoch, expiry⟩) (live : store.clock < expiry) :
    Linked loose (store.renewRelation account epoch expiry) := by
  unfold Store.renewRelation
  split
  · exact linked
  next relation found =>
  split
  · next owned =>
    split
    · exact linked.drop account
    next session stored =>
    split
    · next valid =>
      obtain ⟨open_, current⟩ := valid
      obtain ⟨limit, hosted⟩ := get_eq_some.mp current
      obtain ⟨_, _, paired⟩ := paired hosted
      have same : session.expiresAt = limit := by
        rw [Keyspace.get, paired] at stored
        exact (congrArg Session.expiresAt (some.inj stored)).symm
      refine linked.watch { relation with expiresAt := min expiry session.expiresAt } (lt_min live open_) rfl
        (linked (get_eq_some.mp found).choose_spec).named ⟨limit, ?_, hosted⟩ ⟨expiry,
          min_le_left _ _, ?_⟩ rfl rfl rfl rfl
      · exact same ▸ min_le_right _ _
      · exact owned ▸ held
    · exact linked.drop account
  · exact linked

theorem watching_eq_some (valid : store.watching epoch spectator = some (relation, expiry)) :
    store.relations.get spectator = some relation ∧ relation.hostEpoch = epoch ∧
      store.clock < expiry ∧ store.epochs.get spectator = some relation.spectatorEpoch ∧
      ∃ session, store.sessions.get relation.spectatorEpoch.session = some session ∧
      session.expiresAt = expiry := by
  unfold Store.watching at valid
  split at valid
  · cases valid
  next found related =>
  split at valid
  · next owned =>
    split at valid
    · cases valid
    next session held =>
    split at valid
    · next current =>
      obtain ⟨rfl, rfl⟩ := Prod.mk.inj (some.inj valid)
      exact ⟨related, owned, current.1, current.2, session, held, rfl⟩
    · cases valid
  · cases valid

theorem Linked.renewViewer (linked : Linked (· = account) store) (paired : Paired store)
    (current : store.epochs account = some ⟨epoch, expiry⟩) (live : store.clock < expiry) :
    Linked (· = account) (store.renewViewer account epoch expiry spectator) := by
  have held : store.epochs.get account = some epoch := get_eq_some.mpr ⟨_, current⟩
  unfold Store.renewViewer
  split
  · next relation spectatorExpiry valid =>
    obtain ⟨found, rfl, open_, watching, session, kept, same⟩ := watching_eq_some valid
    obtain ⟨limit, watched⟩ := get_eq_some.mp watching
    have lasts : spectatorExpiry = limit := by
      obtain ⟨_, _, stored⟩ := paired watched
      rw [Keyspace.get, stored] at kept
      exact same.symm.trans (congrArg Session.expiresAt (some.inj kept)).symm
    obtain rfl : relation.host = account := paired.unique (linked.current found) held rfl
    intro other later deadline stored
    by_cases same : other = spectator
    · subst same
      simp only [put_same, some.injEq, Timed.mk.injEq] at stored
      obtain ⟨rfl, rfl⟩ := stored
      refine ⟨lt_min live open_, rfl, (linked (get_eq_some.mp found).choose_spec).named,
        ⟨expiry, min_le_left _ _, current⟩, ⟨limit, lasts ▸ min_le_right _ _, watched⟩, ?_,
        fun tight => absurd rfl tight⟩
      simp only [update_self]
      exact mem_add.mpr (.inl rfl)
    · have link := linked ((put_other same).symm.trans stored)
      refine link.update rfl rfl rfl ?_ (fun _ tight => absurd rfl tight) fun _ loosened => loosened
      intro shared
      exact mem_add.mpr (.inr ⟨shared ▸ link.listed, same⟩)
  · exact linked.pruneViewer held

theorem Linked.renewViewers (linked : Linked (fun _ => False) store) (paired : Paired store)
    (current : store.epochs account = some ⟨epoch, expiry⟩) (live : store.clock < expiry) :
    Linked (fun _ => False) (store.renewViewers account epoch expiry) := by
  refine .tighten (List.foldlRecOn (motive := fun middle => Linked (· = account) middle ∧
    Touches [.relations] store middle)
    _ _ ⟨linked.loosen, .refl store⟩ ?_).1
  rintro middle ⟨linked, touches⟩ spectator _
  have same := touches.others .sessions (by simp)
  refine ⟨linked.renewViewer (paired.of_same same) (same.2.1 ▸ current) (touches.clock ▸ live), ?_⟩
  exact touches.trans (renewViewer_touches middle spectator)

theorem Linked.elsewhere (linked : Linked loose store) (unwatched : Unwatched account store)
    (clock : after.clock = store.clock)
    (only : ∀ other entry, after.relations other = some entry → other ≠ account ∧
      store.relations other = some entry) (viewers :
      ∀ host, host ≠ account → after.viewers host = store.viewers host) (epochs :
      ∀ host, host ≠ account → after.epochs host = store.epochs host) : Linked loose after := by
  intro spectator relation deadline stored
  obtain ⟨different, stored⟩ := only spectator _ stored
  have apart := unwatched (get_eq_some.mpr ⟨_, stored⟩)
  obtain ⟨live, expiry, named, hosted, watched, listed, kept⟩ := linked stored
  exact ⟨clock ▸ live, expiry, named, epochs _ apart ▸ hosted, epochs _ different ▸ watched,
    viewers _ apart ▸ listed, viewers _ apart ▸ kept⟩

theorem dropRelation_viewers : (store.dropRelation epoch spectator).viewers = store.viewers := by
  unfold Store.dropRelation
  split <;> rfl

theorem of_foldl_dropRelation {spectators : List String}
    (found : (spectators.foldl (fun store spectator => store.dropRelation epoch spectator)
      store).relations other =
      some entry) :
    store.relations other = some entry ∧ (other ∈ spectators → entry.value.hostEpoch ≠ epoch) := by
  induction spectators generalizing store with
  | nil => exact ⟨found, nofun⟩
  | cons spectator rest ih =>
    obtain ⟨stored, unowned⟩ := ih found
    obtain ⟨stored, first⟩ := of_dropRelation stored
    refine ⟨stored, fun member => ?_⟩
    rcases List.mem_cons.mp member with same | member
    · exact first same
    · exact unowned member

theorem foldl_dropRelation_viewers {spectators : List String} :
    (spectators.foldl (fun store spectator => store.dropRelation epoch spectator) store).viewers =
    store.viewers := by
  induction spectators generalizing store with
  | nil => rfl
  | cons spectator rest ih => exact ih.trans dropRelation_viewers

section

variable (linked : Linked loose store)
include linked

theorem Linked.releaseViewers (current : store.epochs.get account = some epoch) :
    Linked loose (store.releaseViewers account epoch) ∧
    Unwatched account (store.releaseViewers account epoch) := by
  have only : ∀ other entry, (store.releaseViewers account epoch).relations other = some entry →
    store.relations other = some entry := fun other entry found => (of_foldl_dropRelation found).1
  have unwatched : Unwatched account (store.releaseViewers account epoch) := by
    rintro spectator relation found rfl
    obtain ⟨deadline, stored⟩ := get_eq_some.mp found
    obtain ⟨stored, unowned⟩ := of_foldl_dropRelation stored
    have listed := mem_members.mpr ⟨_, (linked stored).listed⟩
    have held := linked.current (get_eq_some.mpr ⟨_, stored⟩)
    exact unowned listed (some.inj (held.symm.trans current))
  refine ⟨?_, unwatched⟩
  have touches : Touches [.relations] store (store.releaseViewers account epoch) :=
    releaseViewers_touches store
  intro spectator relation deadline found
  have apart := unwatched (get_eq_some.mpr ⟨_, found⟩)
  have link := linked (only _ _ found)
  have viewers : (store.releaseViewers account epoch).viewers relation.host =
    store.viewers relation.host := by
    unfold Store.releaseViewers
    dsimp only
    rw [update_of_ne apart, foldl_dropRelation_viewers]
  exact link.carry touches.clock (touches.others .sessions (by simp)).2.1 (viewers ▸ link.listed)
    (viewers ▸ link.kept)

theorem Linked.releaseEpoch (current : store.epochs.get account = some epoch) :
    Linked loose (store.releaseEpoch account epoch) ∧
    Unwatched account (store.releaseEpoch account epoch) := by
  have left : Touches [.channels] store (store.releaseChannels account epoch) := releaseChannels_touches store
  have unchanneled := linked.of_same left.clock (left.others .sessions (by simp)).2.1
    (left.others .relations (by simp))
  have ended : Touches [.relations] (store.releaseChannels account epoch)
    ((store.releaseChannels account epoch).endWatching account epoch) := endWatching_touches _
  apply Linked.releaseViewers unchanneled.endWatching
  rw [(ended.others .sessions (by simp)).2.1, (left.others .sessions (by simp)).2.1]
  exact current

theorem Linked.supersede :
    Linked loose (store.supersede account session) ∧ Unwatched account (store.supersede account session) := by
  unfold Store.supersede
  split
  · next absent =>
    refine ⟨linked, ?_⟩
    rintro spectator relation found rfl
    rw [linked.current found] at absent
    cases absent
  · next old current =>
    obtain ⟨linked, unwatched⟩ := linked.releaseEpoch current
    split
    · exact ⟨linked, unwatched⟩
    · exact ⟨linked.of_same rfl rfl ⟨rfl, rfl, rfl⟩, unwatched⟩

theorem Linked.openSession : Linked loose (openSession lua limits call store).2 := by
  obtain ⟨superseded, unwatched⟩ : _ ∧ Unwatched call.account (store.supersede call.account call.session) :=
    linked.supersede
  unfold Realtime.openSession
  dsimp only
  split_ifs
  · exact linked
  · exact linked
  · exact linked
  · exact linked
  · refine superseded.elsewhere unwatched ?_ ?_ ?_ ?_
    · rfl
    · exact fun other entry found => of_drop found
    · exact fun host different => update_of_ne different ..
    · exact fun host different => put_other different

theorem Linked.fenceSession : Linked loose (fenceSession account epoch store).2 := by
  unfold Realtime.fenceSession
  split
  · exact linked
  next answer valid =>
  obtain ⟨released, unwatched⟩ := linked.releaseEpoch (sessionStatus_eq_ok.mp valid).1
  refine released.elsewhere unwatched ?_ ?_ ?_ ?_
  · rfl
  · exact fun other entry found => of_drop found
  · exact fun host different => update_of_ne different ..
  · exact fun host different => drop_other different

theorem Linked.renewed (paired : Paired store)
    (valid : sessionStatus store account epoch now = .ok (present, durable)) (later : present ≤ expiry)
    (clock : after.clock = store.clock) (epochs : after.epochs = store.epochs.touch account expiry)
    (same : Part.relations.Same store after) : Linked loose after := by
  have held := paired.valid valid
  obtain ⟨relations, _, viewers⟩ := same
  intro spectator relation deadline stored
  rw [relations] at stored
  obtain ⟨live, expires, named, hosted, watched, listed, kept⟩ := linked stored
  have longer : ∀ owner epoch, (∃ limit, deadline ≤ limit ∧ store.epochs owner = some ⟨epoch, limit⟩) →
    ∃ limit, deadline ≤ limit ∧ after.epochs owner = some ⟨epoch, limit⟩ := by
    rintro owner epoch ⟨limit, bounded, found⟩
    rw [epochs]
    by_cases same : owner = account
    · subst same
      rw [held] at found
      cases found
      rw [touch_same, held]
      exact ⟨expiry, bounded.trans later, rfl⟩
    · rw [touch_other same]
      exact ⟨limit, bounded, found⟩
  exact ⟨clock ▸ live, expires, named, longer _ _ hosted, longer _ _ watched, viewers ▸ listed,
    viewers ▸ kept⟩

end

theorem Linked.renewOwned (linked : Linked (fun _ => False) store) (paired : Paired store)
    (held : store.epochs account = some ⟨epoch, expiry⟩) (live : store.clock < expiry) :
    Linked (fun _ => False) (store.renewOwned account epoch expiry presenceExpiry) := by
  unfold Store.renewOwned
  dsimp only
  have joined : Touches [.presences, .preferences, .channels] store (((store.renewPresence account epoch
    presenceExpiry).renewPreference account epoch expiry).renewChannels account epoch expiry) :=
    ((renewPresence_touches store).mono (by simp)).trans (((renewPreference_touches _).mono (by simp)).trans
      ((renewChannels_touches _).mono (by simp)))
  generalize ((store.renewPresence account epoch presenceExpiry).renewPreference account epoch
    expiry).renewChannels
    account epoch expiry = middle at joined
  have same := joined.others .sessions (by simp)
  have related : Touches [.relations] middle (middle.renewRelation account epoch expiry) :=
    renewRelation_touches middle
  have pairs : Paired middle := paired.of_same same
  have links : Linked (fun _ => False) middle :=
    linked.of_same joined.clock same.2.1 (joined.others .relations (by simp))
  have renewed : Linked (fun _ => False) (middle.renewRelation account epoch expiry) :=
    links.renewRelation pairs (same.2.1 ▸ held) (joined.clock ▸ live)
  refine renewed.renewViewers (pairs.of_same (related.others .sessions (by simp))) ?_ ?_
  · rw [(related.others .sessions (by simp)).2.1, same.2.1]
    exact held
  · rw [related.clock, joined.clock]
    exact live

theorem Linked.heartbeatSession (linked : Linked (fun _ => False) store) (paired : Paired store) :
    Linked (fun _ => False) (heartbeatSession limits call store).2 := by
  unfold Realtime.heartbeatSession
  dsimp only
  split
  · exact linked
  next current durable valid =>
  split
  · exact linked
  have later : current ≤ max current
    (min (min call.requestedExpiry durable) (store.clock + limits.sessionTtl)) :=
    le_max_left _ _
  generalize max current (min (min call.requestedExpiry durable)
    (store.clock + limits.sessionTtl)) = expiry at *
  have live : store.clock < expiry := lt_of_lt_of_le (sessionStatus_eq_ok.mp valid).2.2 later
  refine .renewOwned (linked.renewed paired valid later rfl rfl ⟨rfl, rfl, rfl⟩) ?_ ?_ live
  · exact paired.renewed valid rfl rfl
  · change store.epochs.touch call.account expiry call.account = _
    rw [touch_same, paired.valid valid]
    rfl

theorem Linked.relate (linked : Linked loose store) (live : store.clock < call.expiry)
    (hosted : ∃ limit, call.expiry ≤ limit ∧ store.epochs call.host = some ⟨call.hostEpoch, limit⟩)
    (watched : ∃ limit, call.expiry ≤ limit ∧
      store.epochs call.spectator = some ⟨call.spectatorEpoch, limit⟩) : Linked loose
    (relate lua call spectatorExpiry store) := by
  unfold Realtime.relate
  cases store.relations.get call.spectator with
  | none => exact linked.watch (call.relation _) live rfl rfl hosted watched rfl rfl rfl rfl
  | some previous =>
    -- The new relation takes the place of one that has ended on both sides.
    let revision := lua.argument ((store.relationRevisions.get call.spectator).getD 0 + 1)
    refine (linked.unwatch previous.host call.spectator).watch (call.relation revision) live rfl rfl
      hosted watched rfl rfl ?_ rfl
    exact (update_idem ..).symm

theorem Linked.attachSpectator (linked : Linked loose store) (paired : Paired store) :
    Linked loose (attachSpectator lua limits call store).2 := by
  unfold Realtime.attachSpectator
  dsimp only
  split
  · exact linked
  split
  · exact linked
  next hostExpiry _ valid =>
  split
  · exact linked
  next spectatorExpiry _ watching =>
  split
  · exact linked
  next presenceExpiry _ =>
  split
  · exact linked
  next proper =>
  simp only [not_or, not_le, not_lt] at proper
  have least := proper.2.1.trans (min_le_left _ _)
  have related : Linked loose (Realtime.relate lua call spectatorExpiry store) :=
    linked.relate proper.1 ⟨hostExpiry, least.trans (min_le_left _ _), paired.valid valid⟩
      ⟨spectatorExpiry, least.trans (min_le_right _ _), paired.valid watching⟩
  have tidied : Touches [.frames] (Realtime.relate lua call spectatorExpiry store)
    (tidyFrames limits call.host store.clock (Realtime.relate lua call spectatorExpiry store)) :=
    tidyFrames_touches _
  split_ifs
  · exact linked
  · exact linked
  · exact related.of_same tidied.clock (tidied.others .sessions (by simp)).2.1
      (tidied.others .relations (by simp))

theorem Linked.detachSpectator (linked : Linked loose store) :
    Linked loose (detachSpectator call store).2 := by
  unfold Realtime.detachSpectator
  split
  · exact linked.unwatch _ _
  · exact linked

theorem Linked.getSpectator (linked : Linked loose store) :
    Linked loose (getSpectator account epoch instant store).2 := by
  unfold Realtime.getSpectator
  dsimp only
  split
  · exact linked
  · split
    · exact linked
    · split
      · exact linked
      · exact linked.unwatch _ _

section

variable (linked : Linked (fun _ => False) store)
include linked

theorem Linked.listSpectators : Linked (fun _ => False) (listSpectators host epoch instant store).2 := by
  unfold Realtime.listSpectators
  dsimp only
  split
  · exact linked
  next valid =>
  have current := (sessionStatus_eq_ok.mp valid).1
  apply Linked.tighten
  refine (sweep_preserves (fun middle => Linked (· = host) middle ∧ Touches [.relations] store middle) ?_
    ⟨linked.loosen, .refl store⟩).1
  rintro middle spectator _ ⟨linked, touches⟩ _
  refine ⟨linked.pruneViewer ?_, touches.trans (pruneViewer_touches middle spectator)⟩
  rw [(touches.others .sessions (by simp)).2.1]
  exact current

theorem Linked.sweepRecipients (current : store.epochs.get host = some epoch) :
    Linked (fun _ => False) ((sweep (recipient host epoch) (Realtime.pruneRecipient host epoch)
      (store.viewers host).members store).2.refreshViewers host) := by
  apply Linked.tighten
  refine (sweep_preserves (fun middle => Linked (· = host) middle ∧ Touches [.relations] store middle) ?_
    ⟨linked.loosen, .refl store⟩).1
  rintro middle spectator _ ⟨linked, touches⟩ _
  refine ⟨linked.pruneRecipient ?_, touches.trans (pruneRecipient_touches middle spectator)⟩
  rw [(touches.others .sessions (by simp)).2.1]
  exact current

theorem Linked.publishFrame : Linked (fun _ => False) (publishFrame lua limits call store).2 := by
  rcases publishFrame_cases lua limits call store with ⟨refusal, refused, _⟩ | ⟨accepted, _, stored⟩
  · rw [refused]
    exact linked
  rw [stored]
  have begun := call.begin_touches store
  have epochs := (begun.others .sessions (by simp)).2.1
  obtain ⟨_, _, _, valid, _⟩ := accepted.live
  have swept := (linked.of_same begun.clock epochs (begun.others .relations (by simp))).sweepRecipients
    (epochs ▸ (sessionStatus_eq_ok.mp valid).1)
  have stored : Touches [.frames] _
    (storeFrame lua limits call (call.prune (call.begin store))).2 := storeFrame_touches _
  exact swept.of_same stored.clock (stored.others .sessions (by simp)).2.1
    (stored.others .relations (by simp))

theorem Linked.advance (now : Nat) : Linked (fun _ => False) (store.advance now) := by
  intro spectator relation deadline stored
  obtain ⟨stored, open_⟩ := purge_eq_some.mp stored
  obtain ⟨_, expiry, named, hosted, watched, listed, kept⟩ := linked stored
  obtain ⟨last, within, timed⟩ := kept not_false
  have still : ∀ owner epoch, (∃ limit, deadline ≤ limit ∧ store.epochs owner = some ⟨epoch, limit⟩) →
    ∃ limit, deadline ≤ limit ∧ (store.advance now).epochs owner = some ⟨epoch, limit⟩ :=
    fun owner epoch ⟨limit, bounded, found⟩ =>
      ⟨limit, bounded, purge_eq_some.mpr ⟨found, lt_of_lt_of_le open_ bounded⟩⟩
  have viewers : (store.advance now).viewers relation.host = store.viewers relation.host :=
    SortedSet.purge_eq_self timed (lt_of_lt_of_le open_ within)
  exact ⟨open_, expiry, named, still _ _ hosted, still _ _ watched, viewers ▸ listed,
    fun _ => ⟨last, within, viewers ▸ timed⟩⟩

theorem Linked.step (paired : Paired store)
    (step : Step lua limits allowed store after) : Linked (fun _ => False) after := by
  cases step with
  | call call _ =>
    have touches := call.run_touches lua limits store
    cases call with
    | openSession => exact linked.openSession
    | heartbeatSession => exact linked.heartbeatSession paired
    | fenceSession => exact linked.fenceSession
    | attachSpectator => exact linked.attachSpectator paired
    | detachSpectator => exact linked.detachSpectator
    | getSpectator => exact linked.getSpectator
    | listSpectators => exact linked.listSpectators
    | publishFrame => exact linked.publishFrame
    | _ =>
      exact linked.of_same touches.clock (touches.others .sessions (by simp [Call.parts])).2.1
        (touches.others .relations (by simp [Call.parts]))
  | advance now _ => exact linked.advance now

end

/-- In every run the two sides of each relation agree. -/
theorem Linked.runs (runs : Runs lua limits allowed (.empty clock) store) :
    Linked (fun _ => False) store ∧ Paired store := by
  induction runs with
  | refl => exact ⟨nofun, nofun⟩
  | tail _ step ih => exact ⟨ih.1.step ih.2 step, ih.2.step step⟩

end

section

variable {account host : String} {epoch : Epoch}

theorem getSpectator_eq_ok : (getSpectator account epoch instant store).1 = .ok relation ↔
    (∃ expiry durable, sessionStatus store account epoch (max store.clock instant) = .ok (expiry, durable)) ∧
      store.relations.get account = some relation ∧ max store.clock instant < relation.expiresAt ∧
      relation.spectatorEpoch = epoch ∧ store.epochs.get relation.host = some relation.hostEpoch ∧
      (store.sessions.get relation.hostEpoch.session).any (max store.clock instant < ·.expiresAt) = true := by
  unfold getSpectator
  dsimp only
  split
  · next refused =>
    refine iff_of_false (fun answered => by cases answered) ?_
    rintro ⟨⟨_, _, valid⟩, _⟩
    rw [refused] at valid
    cases valid
  · next answer valid =>
    have known : ∃ expiry durable, sessionStatus store account epoch (max store.clock instant) =
      .ok (expiry, durable) :=
      ⟨_, _, valid⟩
    split
    · next absent =>
      refine iff_of_false (fun answered => by cases answered) ?_
      rintro ⟨_, found, _⟩
      rw [absent] at found
      cases found
    · next found related =>
      split
      · next proper =>
        rw [related]
        constructor
        · rintro ⟨⟩
          exact ⟨known, rfl, proper⟩
        · rintro ⟨_, ⟨⟩, _⟩
          rfl
      · next improper =>
        rw [related]
        refine iff_of_false (fun answered => by cases answered) ?_
        rintro ⟨_, ⟨⟩, proper⟩
        exact improper proper

theorem validViewer_eq_some : validViewer host epoch now store spectator = some answer ↔
    answer.1 = spectator ∧ store.relations.get spectator = some answer.2 ∧ answer.2.host = host ∧
      answer.2.hostEpoch = epoch ∧ now < answer.2.expiresAt ∧
      store.epochs.get spectator = some answer.2.spectatorEpoch ∧
      (store.sessions.get answer.2.spectatorEpoch.session).any (now < ·.expiresAt) = true := by
  obtain ⟨listed, relation⟩ := answer
  unfold validViewer
  split
  · next absent => simp [absent]
  next found related =>
  rw [related]
  split
  · next proper =>
    simp only [some.injEq, Prod.mk.injEq]
    constructor
    · rintro ⟨rfl, rfl⟩
      exact ⟨rfl, rfl, proper⟩
    · rintro ⟨rfl, rfl, _⟩
      exact ⟨rfl, rfl⟩
  · next improper =>
    refine iff_of_false nofun ?_
    rintro ⟨_, same, proper⟩
    exact improper (some.inj same ▸ proper)

theorem validViewer_prune (different : other ≠ spectator) :
    validViewer host epoch now (store.pruneViewer host epoch spectator) other =
      validViewer host epoch now store other := by
  have touches : Touches [.relations] store (store.pruneViewer host epoch spectator) :=
    pruneViewer_touches store spectator
  obtain ⟨sessions, epochs, _⟩ := touches.others .sessions (by simp)
  have related : (store.pruneViewer host epoch spectator).relations.get other =
    store.relations.get other := by
    change Option.map _ ((store.dropRelation epoch spectator).relations other) = _
    unfold Store.dropRelation
    split
    · exact congrArg _ (drop_other different)
    · rfl
  unfold validViewer
  rw [related, sessions, epochs]

/-- In every run, a spectator whose session is current is listed for a host whose session
is current exactly if the lookup of the spectator answers with that host, and then both
show one relation. -/
theorem listed_iff_watching (reached : Runs lua limits allowed (.empty clock) store)
    (hostValid : sessionStatus store host hostEpoch (max store.clock instant) = .ok hostExpiries)
    (spectatorValid : sessionStatus store spectator spectatorEpoch (max store.clock instant) = .ok
      spectatorExpiries) :
    ∃ listed, (listSpectators host hostEpoch instant store).1 = .ok listed ∧
      ∀ relation, (spectator, relation) ∈ listed ↔
        (getSpectator spectator spectatorEpoch instant store).1 = .ok relation ∧ relation.host = host := by
  obtain ⟨linked, _⟩ := Linked.runs reached
  obtain ⟨hostCurrent, hostSession, hostLive⟩ := sessionStatus_eq_ok.mp hostValid
  obtain ⟨current, session, live⟩ := sessionStatus_eq_ok.mp spectatorValid
  have answered : (listSpectators host hostEpoch instant store).1 = .ok (sweep
    (validViewer host hostEpoch (max store.clock instant)) (fun store =>
      store.pruneViewer host hostEpoch) (store.viewers host).members store).1 := by
    simp only [listSpectators, hostValid]
  refine ⟨_, answered, fun relation => ?_⟩
  rw [sweep_answers (store.viewers host).members_nodup fun _ _ _ => validViewer_prune,
    List.mem_filterMap, getSpectator_eq_ok]
  constructor
  · rintro ⟨key, _, valid⟩
    obtain ⟨rfl, related, rfl, rfl, open_, watching, _⟩ := validViewer_eq_some.mp valid
    have same := some.inj (watching.symm.trans current)
    refine ⟨⟨⟨_, _, spectatorValid⟩, related, open_, same, hostCurrent, ?_⟩, rfl⟩
    rw [hostSession]
    exact decide_eq_true hostLive
  · rintro ⟨⟨_, related, open_, rfl, hosted, _⟩, rfl⟩
    obtain ⟨deadline, stored⟩ := get_eq_some.mp related
    refine ⟨spectator, mem_members.mpr ⟨_, (linked stored).listed⟩, validViewer_eq_some.mpr ?_⟩
    have same := some.inj (hosted.symm.trans hostCurrent)
    refine ⟨rfl, related, rfl, same, open_, current, ?_⟩
    rw [session]
    exact decide_eq_true live

def ranAll (calls : List Call) :
    Store := calls.foldl (fun store call => call.run fullLua sampleLimits store) (.empty 0)

theorem ranAll_reached (permitted : ∀ call ∈ calls, allowed call) :
    Runs fullLua sampleLimits allowed (.empty 0) (ranAll calls) := by
  unfold ranAll
  generalize Store.empty 0 = store
  induction calls generalizing store with
  | nil => exact .refl
  | cons call rest ih =>
    obtain ⟨first, others⟩ := List.forall_mem_cons.mp permitted
    exact .head (.call call first) (ih others _)

def watchedStore : Store := ranAll [.openSession (sampleOpen "1" 7),
  .openSession (sampleOpen "2" 8), .setPresence ⟨"1", SessionFence (sampleSession 7) 1, 40, [], 0⟩,
  .attachSpectator ⟨"1", "2", sampleSession 9, SessionFence (sampleSession 7) 1,
  SessionFence (sampleSession 8) 1, 30, 1⟩]

theorem watchedStore_listed :
    ∃ listed relation, (listSpectators "1" (SessionFence (sampleSession 7) 1) 0 watchedStore).1 =
      .ok listed ∧ ("2", relation) ∈ listed ∧ relation.host = "1" := by
  have hostValid : sessionStatus watchedStore "1" (SessionFence (sampleSession 7) 1)
    (max watchedStore.clock 0) = .ok (50, 1000) := by decide
  have spectatorValid : sessionStatus watchedStore "2" (SessionFence (sampleSession 8) 1)
    (max watchedStore.clock 0) = .ok (50, 1000) := by decide
  have found : (getSpectator "2" (SessionFence (sampleSession 8) 1) 0 watchedStore).1.toOption.any
    (·.host = "1") = true := by
    decide
  have reached : Runs fullLua sampleLimits (fun _ => True) (.empty 0) watchedStore :=
    ranAll_reached fun _ _ => trivial
  generalize watchedStore = store at *
  obtain ⟨listed, answered, same⟩ := listed_iff_watching reached hostValid spectatorValid
  cases looked : (getSpectator "2" (SessionFence (sampleSession 8) 1) 0 store).1 with
  | error refusal => simp [looked, Except.toOption] at found
  | ok relation =>
    have hosted : relation.host = "1" := by simpa [looked, Except.toOption] using found
    exact ⟨listed, relation, answered, (same relation).mpr ⟨looked, hosted⟩, hosted⟩

end

end Perfcho.Realtime
