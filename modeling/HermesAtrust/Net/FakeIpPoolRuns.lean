import HermesAtrust.Net.FakeIpPool

/-!
# Whole lives of a Fake IP pool

A life is the list of all calls on a pool, each with what it took from outside
and with its outcome.  Numbers only go up, so no address is handed out twice
for different hosts; and what the pool holds for an address is always what the
latest call that returned this address has written.
-/

namespace HermesAtrust.Net

open HermesAtrust.L3 HermesAtrust.Auth HermesAtrust.Text
open HermesAtrust.Collections HermesAtrust.Concurrency

/-! ## The addresses of the pool -/

theorem addressNumber_addressOf {number : Nat} (small : number < 2 ^ 32) :
    addressNumber (addressOf number) = number := by
  simp only [addressNumber, addressOf, UInt8.toNat_ofNat']
  omega

/-- The mask keeps the base and clears the 17 low bits. -/
theorem isFake_addressOf {offset : Nat} (small : offset < 2 ^ 17) :
    FakeIpPool.isFake (addressOf (fakeBase + offset)) = true := by
  have base : fakeBase = 2 ^ 17 * 25353 := by decide
  have inRange : fakeBase + offset < 2 ^ 32 := by omega
  rw [FakeIpPool.isFake, addressNumber_addressOf inRange, beq_iff_eq, base]
  have mask : (0xfffe0000 : Nat) = 2 ^ 17 * 32767 + 0 := by decide
  have whole : 2 ^ 17 * 25353 = 2 ^ 17 * 25353 + 0 := by decide
  rw [mask]
  conv_rhs => rw [whole]
  apply Nat.eq_of_testBit_eq
  intro bit
  rw [Nat.testBit_and, Nat.testBit_two_pow_mul_add _ small,
    Nat.testBit_two_pow_mul_add _ (by decide),
    Nat.testBit_two_pow_mul_add _ (by decide)]
  split
  · simp
  · rw [← Nat.testBit_and]
    rfl

theorem addressOf_injective {first second : Nat}
    (firstSmall : first < 2 ^ 32) (secondSmall : second < 2 ^ 32)
    (same : addressOf first = addressOf second) :
    first = second := by
  rw [← addressNumber_addressOf firstSmall, same,
    addressNumber_addressOf secondSmall]

/-! ## Calls -/

inductive PoolCall where
  | assign (host : Str) (epoch generation ttl : Nat)
  | lookup (ip : Ipv4Addr) (epoch generation : Nat)
  | rememberReal (ip : Ipv4Addr) (host : Str) (epoch generation ttl : Nat)
  | realHosts (ip : Ipv4Addr) (epoch generation : Nat)

namespace PoolCall

/-- The epoch and the generation a call carries. -/
def carried : PoolCall → Nat × Nat
  | .assign _ epoch generation _ => (epoch, generation)
  | .lookup _ epoch generation => (epoch, generation)
  | .rememberReal _ _ epoch generation _ => (epoch, generation)
  | .realHosts _ epoch generation => (epoch, generation)

end PoolCall

inductive PoolOutcome where
  | assigned (ending : Ending Ipv4Addr)
  | lookedUp (host : Option Str)
  | remembered (ending : Ending Unit)
  | shared (hosts : List Str)

structure PoolEvent where
  call : PoolCall
  surroundings : Surroundings
  outcome : PoolOutcome

/-- A pool and all calls on it, the latest first. -/
structure PoolLife where
  pool : FakeIpPool
  past : List PoolEvent

section Calls

variable (lastInstant : Instant)

/-- One call on the pool. -/
def FakeIpPool.perform (pool : FakeIpPool) (surroundings : Surroundings) :
    PoolCall → FakeIpPool × PoolOutcome
  | .assign host epoch generation ttl =>
      let (after, ending) :=
        FakeIpPool.assign lastInstant pool host epoch generation ttl
          surroundings
      (after, .assigned ending)
  | .lookup ip epoch generation =>
      let (after, host) := pool.lookup ip epoch generation surroundings
      (after, .lookedUp host)
  | .rememberReal ip host epoch generation ttl =>
      let (after, ending) :=
        FakeIpPool.rememberReal lastInstant pool ip host epoch generation ttl
          surroundings
      (after, .remembered ending)
  | .realHosts ip epoch generation =>
      let (after, hosts) := pool.realHosts ip epoch generation surroundings
      (after, .shared hosts)

/-- The life after one more call. -/
def PoolLife.extend (life : PoolLife) (next : PoolCall × Surroundings) :
    PoolLife :=
  let (after, outcome) := life.pool.perform lastInstant next.2 next.1
  ⟨after, ⟨next.1, next.2, outcome⟩ :: life.past⟩

/-- The life of a new pool under the calls. -/
def PoolLife.ofCalls (capacity : Nat)
    (calls : List (PoolCall × Surroundings)) : PoolLife :=
  calls.foldl (PoolLife.extend lastInstant) ⟨FakeIpPool.new capacity, []⟩

end Calls

namespace PoolEvent

/-- The address an `assign` returned and what it wrote for it. -/
def returned (event : PoolEvent) : Option (Ipv4Addr × Binding) :=
  match event.call, event.outcome with
  | .assign host epoch generation ttl, .assigned (.returned (.ok ip)) =>
      some (ip, ⟨host, epoch, generation, event.surroundings.stamp + ttl⟩)
  | _, _ => none

/-- What an `assign` wrote if it returned this address. -/
def returnedFor (ip : Ipv4Addr) (event : PoolEvent) : Option Binding :=
  match event.returned with
  | some (other, binding) => if other = ip then some binding else none
  | none => none

theorem returnedFor_eq_some {ip : Ipv4Addr} {event : PoolEvent}
    {binding : Binding} :
    event.returnedFor ip = some binding ↔
      event.returned = some (ip, binding) := by
  unfold returnedFor
  split
  · next other written known =>
      rw [known]
      simp
  · next known =>
      rw [known]
      simp

end PoolEvent

/-- What the latest call that returned an address has written for it. -/
def latestFor (past : List PoolEvent) (ip : Ipv4Addr) : Option Binding :=
  past.findSome? (PoolEvent.returnedFor ip)

theorem latestFor_cons (event : PoolEvent) (past : List PoolEvent)
    (ip : Ipv4Addr) :
    latestFor (event :: past) ip =
      (event.returnedFor ip).or (latestFor past ip) := by
  rw [latestFor, List.findSome?_cons]
  cases event.returnedFor ip with
  | none => rfl
  | some binding => rfl

theorem mem_of_latestFor {past : List PoolEvent} {ip : Ipv4Addr}
    {binding : Binding} (latest : latestFor past ip = some binding) :
    ∃ event ∈ past, event.returned = some (ip, binding) := by
  obtain ⟨event, listed, written⟩ := List.exists_of_findSome?_eq_some latest
  exact ⟨event, listed, PoolEvent.returnedFor_eq_some.mp written⟩

/-! ## What one call does -/

/-- A call that hands out nothing: it forgets bindings at most. -/
structure FakeIpPool.Forgets (pool after : FakeIpPool) : Prop where
  fake :
    ∀ ip binding, after.fake.lookup ip = some binding →
      pool.fake.lookup ip = some binding
  number :
    after.next = pool.next ∨
      (pool.next < 131071 ∧ after.next = pool.next + 1)
  capacity : after.capacity = pool.capacity
  bounded : after.size ≤ pool.size ∨ after.size ≤ pool.capacity

theorem FakeIpPool.forgets_prune (pool : FakeIpPool) (epoch generation : Nat)
    (surroundings : Surroundings) :
    pool.Forgets (pool.prune epoch generation surroundings) where
  fake := fun _ _ found => (lookup_prune_eq_some.mp found).1
  number := .inl rfl
  capacity := rfl
  bounded := .inl (size_prune_le pool epoch generation surroundings)

section OneCall

variable {lastInstant : Instant} {pool after : FakeIpPool}
  {surroundings : Surroundings} {call : PoolCall} {outcome : PoolOutcome}

/-- A call either is an `assign` that returns an address or forgets. -/
theorem FakeIpPool.perform_cases
    (performed :
      pool.perform lastInstant surroundings call = (after, outcome)) :
    (∃ host epoch generation ttl ip,
      call = .assign host epoch generation ttl ∧
        outcome = .assigned (.returned (.ok ip)) ∧
        HandsOut lastInstant (pool.prune epoch generation surroundings) after
          ip host epoch generation ttl surroundings) ∨
      (PoolEvent.returned ⟨call, surroundings, outcome⟩ = none ∧
        pool.Forgets after) := by
  cases call with
  | assign host epoch generation ttl =>
      cases known :
          FakeIpPool.assign lastInstant pool host epoch generation ttl
            surroundings with
      | mk result ending =>
          simp only [perform, known, Prod.mk.injEq] at performed
          obtain ⟨rfl, rfl⟩ := performed
          rcases assign_cases known with handed | nothing
          · obtain ⟨ip, rfl, handsOut⟩ := handed
            exact .inl ⟨host, epoch, generation, ttl, ip, rfl, rfl, handsOut⟩
          · obtain ⟨notReturned, kept⟩ := nothing
            right
            constructor
            · unfold PoolEvent.returned
              split
              · next ip _ sameOutcome =>
                  exact absurd (PoolOutcome.assigned.inj sameOutcome)
                    (notReturned ip)
              · rfl
            · have pruned := forgets_prune pool epoch generation surroundings
              constructor
              · rw [kept.fake]
                exact pruned.fake
              · rw [← prune_next pool epoch generation surroundings]
                exact kept.number
              · exact kept.capacity
              · rw [size, kept.fake, kept.real]
                exact pruned.bounded
  | lookup ip epoch generation =>
      simp only [perform, FakeIpPool.lookup, Prod.mk.injEq] at performed
      obtain ⟨rfl, rfl⟩ := performed
      exact .inr ⟨rfl, forgets_prune pool epoch generation surroundings⟩
  | rememberReal ip host epoch generation ttl =>
      cases known :
          FakeIpPool.rememberReal lastInstant pool ip host epoch generation ttl
            surroundings with
      | mk result ending =>
          simp only [perform, known, Prod.mk.injEq] at performed
          obtain ⟨rfl, rfl⟩ := performed
          have remembers := rememberReal_cases known
          have pruned := forgets_prune pool epoch generation surroundings
          refine .inr ⟨rfl, ?_, .inl remembers.next, remembers.capacity, ?_⟩
          · rw [remembers.fake]
            exact pruned.fake
          · rcases remembers.bounded with less | within
            · exact .inl (Nat.le_trans less
                (size_prune_le pool epoch generation surroundings))
            · exact .inr within
  | realHosts ip epoch generation =>
      simp only [perform, FakeIpPool.realHosts, Prod.mk.injEq] at performed
      obtain ⟨rfl, rfl⟩ := performed
      exact .inr ⟨rfl, forgets_prune pool epoch generation surroundings⟩

/-- A call that hands out nothing leaves the pruned Fake IPs. -/
theorem FakeIpPool.perform_fake
    (performed :
      pool.perform lastInstant surroundings call = (after, outcome))
    (quiet : PoolEvent.returned ⟨call, surroundings, outcome⟩ = none) :
    after.fake =
      (pool.prune call.carried.1 call.carried.2 surroundings).fake := by
  cases call with
  | assign host epoch generation ttl =>
      cases known :
          FakeIpPool.assign lastInstant pool host epoch generation ttl
            surroundings with
      | mk result ending =>
          simp only [perform, known, Prod.mk.injEq] at performed
          obtain ⟨rfl, rfl⟩ := performed
          rcases assign_cases known with handed | nothing
          · obtain ⟨ip, rfl, -⟩ := handed
            simp [PoolEvent.returned] at quiet
          · exact nothing.2.fake
  | lookup ip epoch generation =>
      simp only [perform, FakeIpPool.lookup, Prod.mk.injEq] at performed
      rw [← performed.1]
      rfl
  | rememberReal ip host epoch generation ttl =>
      cases known :
          FakeIpPool.rememberReal lastInstant pool ip host epoch generation ttl
            surroundings with
      | mk result ending =>
          simp only [perform, known, Prod.mk.injEq] at performed
          obtain ⟨rfl, rfl⟩ := performed
          exact (rememberReal_cases known).fake
  | realHosts ip epoch generation =>
      simp only [perform, FakeIpPool.realHosts, Prod.mk.injEq] at performed
      rw [← performed.1]
      rfl

/-- A host is only returned from a binding that survives the prune. -/
theorem FakeIpPool.perform_lookup {ip : Ipv4Addr} {epoch generation : Nat}
    {host : Str}
    (performed :
      pool.perform lastInstant surroundings (.lookup ip epoch generation) =
        (after, .lookedUp (some host))) :
    ∃ binding, pool.fake.lookup ip = some binding ∧ binding.host = host ∧
      binding.epoch = epoch ∧ binding.generation = generation ∧
      surroundings.check binding < binding.expiry := by
  simp only [perform, FakeIpPool.lookup, Prod.mk.injEq,
    PoolOutcome.lookedUp.injEq] at performed
  have answered := performed.2
  obtain ⟨binding, found, named⟩ := Option.map_eq_some_iff.mp answered
  have valid := lookup_prune_eq_some.mp found
  exact ⟨binding, valid.1, named, valid.2⟩

end OneCall

/-! ## What holds over a whole life -/

namespace PoolLife

/-- A lookup that returns a host is backed by the latest call that returned
its address. -/
def Backed (event : PoolEvent) (earlier : List PoolEvent) : Prop :=
  ∀ ip epoch generation host,
    event.call = .lookup ip epoch generation →
    event.outcome = .lookedUp (some host) →
    ∃ binding, latestFor earlier ip = some binding ∧ binding.host = host ∧
      binding.epoch = epoch ∧ binding.generation = generation ∧
      event.surroundings.check binding < binding.expiry

structure Sound (capacity : Nat) (life : PoolLife) : Prop where
  sized : life.pool.capacity = capacity
  bounded : life.pool.size ≤ capacity
  numbers : life.pool.next ≤ 131071
  numbered :
    ∀ event ∈ life.past, ∀ ip binding, event.returned = some (ip, binding) →
      ∃ offset < life.pool.next, ip = addressOf (fakeBase + offset)
  oneHost :
    ∀ first ∈ life.past, ∀ second ∈ life.past, ∀ ip firstBinding secondBinding,
      first.returned = some (ip, firstBinding) →
      second.returned = some (ip, secondBinding) →
      firstBinding.host = secondBinding.host
  held :
    ∀ ip binding, life.pool.fake.lookup ip = some binding →
      latestFor life.past ip = some binding
  backed :
    ∀ later event earlier, life.past = later ++ event :: earlier →
      Backed event earlier

theorem sound_new (capacity : Nat) :
    Sound capacity ⟨FakeIpPool.new capacity, []⟩ where
  sized := rfl
  bounded := Nat.zero_le capacity
  numbers := by
    change 1 ≤ 131071
    decide
  numbered := nofun
  oneHost := nofun
  held := by
    intro ip binding found
    simp [FakeIpPool.new] at found
  backed := by
    intro later event earlier same
    simp at same

section Step

variable {lastInstant : Instant} {capacity : Nat} {life : PoolLife}
  {after : FakeIpPool} {event : PoolEvent}

/-- A justified call joins the justified calls before it. -/
theorem backed_cons (backed : Backed event life.past)
    (earlierBacked :
      ∀ later event earlier, life.past = later ++ event :: earlier →
        Backed event earlier) :
    ∀ later other earlier, event :: life.past = later ++ other :: earlier →
      Backed other earlier := by
  intro later other earlier same
  cases later with
  | nil =>
      cases same
      exact backed
  | cons first rest =>
      simp only [List.cons_append, List.cons.injEq] at same
      exact earlierBacked rest other earlier same.2

/-- A call that forgets. -/
theorem Sound.forget (sound : Sound capacity life)
    (quiet : event.returned = none) (forgets : life.pool.Forgets after)
    (backed : Backed event life.past) :
    Sound capacity ⟨after, event :: life.past⟩ := by
  have unreturned : ∀ ip, event.returnedFor ip = none := by
    intro ip
    rw [PoolEvent.returnedFor, quiet]
  have known := sound.sized
  have within := sound.bounded
  have numbers := sound.numbers
  constructor
  · exact forgets.capacity.trans known
  · change after.size ≤ capacity
    rcases forgets.bounded with less | within
    · omega
    · omega
  · change after.next ≤ 131071
    rcases forgets.number with same | advanced
    · omega
    · omega
  · intro other listed ip binding written
    rcases List.mem_cons.mp listed with rfl | listed
    · rw [quiet] at written
      cases written
    · obtain ⟨offset, small, same⟩ :=
        sound.numbered other listed ip binding written
      refine ⟨offset, ?_, same⟩
      change offset < after.next
      rcases forgets.number with kept | advanced
      · omega
      · omega
  · intro first firstListed second secondListed ip firstBinding secondBinding
      firstWritten secondWritten
    rcases List.mem_cons.mp firstListed with rfl | firstListed
    · rw [quiet] at firstWritten
      cases firstWritten
    rcases List.mem_cons.mp secondListed with rfl | secondListed
    · rw [quiet] at secondWritten
      cases secondWritten
    exact sound.oneHost first firstListed second secondListed ip firstBinding
      secondBinding firstWritten secondWritten
  · intro ip binding found
    rw [latestFor_cons, unreturned]
    exact sound.held ip binding (forgets.fake ip binding found)
  · exact backed_cons backed sound.backed

/-- Whoever got the address before got it for the same host. -/
theorem Sound.host_of_handsOut (sound : Sound capacity life) {ip : Ipv4Addr}
    {host : Str} {epoch generation ttl : Nat} {surroundings : Surroundings}
    (handsOut :
      FakeIpPool.HandsOut lastInstant
        (life.pool.prune epoch generation surroundings) after ip host epoch
        generation ttl surroundings) {other : PoolEvent}
    (listed : other ∈ life.past) {binding : Binding}
    (written : other.returned = some (ip, binding)) : binding.host = host := by
  rcases handsOut.number with renewed | fresh
  · obtain ⟨old, found, rfl, -⟩ := renewed
    have stored := (FakeIpPool.lookup_prune_eq_some.mp found).1
    obtain ⟨writer, writerListed, hasWritten⟩ :=
      mem_of_latestFor (sound.held ip old stored)
    exact sound.oneHost other listed writer writerListed ip binding old written
      hasWritten
  · obtain ⟨-, small, same, -⟩ := fresh
    rw [FakeIpPool.prune_next] at small same
    obtain ⟨offset, smaller, alsoSame⟩ :=
      sound.numbered other listed ip binding written
    have base : fakeBase = 2 ^ 17 * 25353 := by decide
    have equal : fakeBase + life.pool.next = fakeBase + offset :=
      addressOf_injective (by omega) (by omega) (same.symm.trans alsoSame)
    omega

/-- A call that hands out an address. -/
theorem Sound.handOut (sound : Sound capacity life) {ip : Ipv4Addr}
    {host : Str} {epoch generation ttl : Nat} {surroundings : Surroundings}
    (handsOut :
      FakeIpPool.HandsOut lastInstant
        (life.pool.prune epoch generation surroundings) after ip host epoch
        generation ttl surroundings)
    (written :
      event.returned =
        some (ip, ⟨host, epoch, generation, surroundings.stamp + ttl⟩))
    (backed : Backed event life.past) :
    Sound capacity ⟨after, event :: life.past⟩ := by
  have known := sound.sized
  have within := sound.bounded
  have numbers := sound.numbers
  have pruned :=
    FakeIpPool.forgets_prune life.pool epoch generation surroundings
  have smaller :=
    FakeIpPool.size_prune_le life.pool epoch generation surroundings
  constructor
  · exact handsOut.capacity.trans known
  · rw [FakeIpPool.size, handsOut.fake, handsOut.real]
    rcases handsOut.number with renewed | fresh
    · obtain ⟨old, found, -⟩ := renewed
      have room := HashTable.len_insert_of_lookup found
        ⟨host, epoch, generation, surroundings.stamp + ttl⟩
      rw [FakeIpPool.size] at smaller
      omega
    · obtain ⟨free, -⟩ := fresh
      have room :=
        HashTable.len_insert_le
          (life.pool.prune epoch generation surroundings).fake ip
          ⟨host, epoch, generation, surroundings.stamp + ttl⟩
      rw [FakeIpPool.prune_capacity, FakeIpPool.size] at free
      omega
  · rcases handsOut.number with renewed | fresh
    · obtain ⟨old, -, -, kept⟩ := renewed
      rw [kept]
      exact numbers
    · obtain ⟨-, small, -, advanced⟩ := fresh
      rw [advanced]
      exact small
  · intro other listed otherIp binding otherWritten
    have grows : life.pool.next ≤ after.next := by
      rcases handsOut.number with renewed | fresh
      · obtain ⟨old, -, -, kept⟩ := renewed
        exact Nat.le_of_eq kept.symm
      · rw [fresh.2.2.2, FakeIpPool.prune_next]
        omega
    rcases List.mem_cons.mp listed with rfl | listed
    · rw [written] at otherWritten
      cases otherWritten
      rcases handsOut.number with renewed | fresh
      · obtain ⟨old, found, -⟩ := renewed
        obtain ⟨writer, writerListed, hasWritten⟩ :=
          mem_of_latestFor (sound.held ip old (pruned.fake ip old found))
        obtain ⟨offset, small, same⟩ :=
          sound.numbered writer writerListed ip old hasWritten
        exact ⟨offset, Nat.lt_of_lt_of_le small grows, same⟩
      · refine ⟨life.pool.next, ?_, fresh.2.2.1⟩
        rw [fresh.2.2.2, FakeIpPool.prune_next]
        omega
    · obtain ⟨offset, small, same⟩ :=
        sound.numbered other listed otherIp binding otherWritten
      exact ⟨offset, Nat.lt_of_lt_of_le small grows, same⟩
  · intro first firstListed second secondListed other firstBinding
      secondBinding firstWritten secondWritten
    rcases List.mem_cons.mp firstListed with rfl | firstEarlier
    · rw [written] at firstWritten
      cases firstWritten
      rcases List.mem_cons.mp secondListed with rfl | secondEarlier
      · rw [written] at secondWritten
        cases secondWritten
        rfl
      · exact
          (sound.host_of_handsOut handsOut secondEarlier secondWritten).symm
    · rcases List.mem_cons.mp secondListed with rfl | secondEarlier
      · rw [written] at secondWritten
        cases secondWritten
        exact sound.host_of_handsOut handsOut firstEarlier firstWritten
      · exact sound.oneHost first firstEarlier second secondEarlier other
          firstBinding secondBinding firstWritten secondWritten
  · intro other binding found
    simp only [handsOut.fake, HashTable.lookup_insert_eq_if] at found
    rw [latestFor_cons]
    by_cases same : other = ip
    · subst same
      rw [if_pos rfl] at found
      rw [PoolEvent.returnedFor_eq_some.mpr written]
      exact found
    · rw [if_neg same] at found
      have unreturned : event.returnedFor other = none := by
        rw [PoolEvent.returnedFor, written]
        exact if_neg (Ne.symm same)
      rw [unreturned]
      exact sound.held other binding (pruned.fake other binding found)
  · exact backed_cons backed sound.backed

theorem Sound.extend (sound : Sound capacity life)
    (next : PoolCall × Surroundings) :
    Sound capacity (life.extend lastInstant next) := by
  obtain ⟨call, surroundings⟩ := next
  rw [PoolLife.extend]
  cases performed : life.pool.perform lastInstant surroundings call with
  | mk after outcome =>
      have backed : Backed ⟨call, surroundings, outcome⟩ life.past := by
        intro ip epoch generation host isLookup answered
        change call = _ at isLookup
        change outcome = _ at answered
        subst isLookup answered
        obtain ⟨binding, found, rest⟩ :=
          FakeIpPool.perform_lookup performed
        exact ⟨binding, sound.held ip binding found, rest⟩
      rcases FakeIpPool.perform_cases performed with handed | quiet
      · obtain ⟨host, epoch, generation, ttl, ip, rfl, rfl, handsOut⟩ := handed
        exact sound.handOut handsOut rfl backed
      · exact sound.forget quiet.1 quiet.2 backed

theorem sound_ofCalls (lastInstant : Instant) (capacity : Nat)
    (calls : List (PoolCall × Surroundings)) :
    Sound capacity (ofCalls lastInstant capacity calls) := by
  have general :
      ∀ life : PoolLife, Sound capacity life →
        Sound capacity (calls.foldl (PoolLife.extend lastInstant) life) := by
    induction calls with
    | nil =>
        intro life sound
        exact sound
    | cons next later inductionHypothesis =>
        intro life sound
        exact inductionHypothesis _ (sound.extend next)
  exact general _ (sound_new capacity)

end Step

end PoolLife

/-- Whatever is called on a pool: an address that `assign` returns is a Fake
IP and stands for one host, a lookup that returns a host is backed by the
latest `assign` that returned the address, which was for this host under the
same epoch and generation and has not expired, and the pool never knows more
addresses than its capacity. -/
theorem fake_ip_pool_life (lastInstant : Instant) (capacity : Nat)
    (calls : List (PoolCall × Surroundings)) :
    (∀ event ∈ (PoolLife.ofCalls lastInstant capacity calls).past,
      ∀ ip binding, event.returned = some (ip, binding) →
        FakeIpPool.isFake ip = true) ∧
      (∀ first ∈ (PoolLife.ofCalls lastInstant capacity calls).past,
        ∀ second ∈ (PoolLife.ofCalls lastInstant capacity calls).past,
          ∀ ip firstBinding secondBinding,
            first.returned = some (ip, firstBinding) →
            second.returned = some (ip, secondBinding) →
            firstBinding.host = secondBinding.host) ∧
      (∀ later event earlier,
        (PoolLife.ofCalls lastInstant capacity calls).past =
          later ++ event :: earlier →
        ∀ ip epoch generation host,
          event.call = .lookup ip epoch generation →
          event.outcome = .lookedUp (some host) →
          ∃ binding, latestFor earlier ip = some binding ∧
            binding.host = host ∧ binding.epoch = epoch ∧
            binding.generation = generation ∧
            event.surroundings.check binding < binding.expiry) ∧
      (PoolLife.ofCalls lastInstant capacity calls).pool.size ≤ capacity := by
  have sound := PoolLife.sound_ofCalls lastInstant capacity calls
  refine ⟨?_, sound.oneHost, sound.backed, sound.bounded⟩
  intro event listed ip binding written
  obtain ⟨offset, small, rfl⟩ := sound.numbered event listed ip binding written
  have numbers := sound.numbers
  exact isFake_addressOf (by omega)

end HermesAtrust.Net
