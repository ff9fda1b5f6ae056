import Tcpcc.Native.Accepted
import Tcpcc.Native.Dialogue
import Tcpcc.Native.Inet
import Tcpcc.Native.Numbers
import Tcpcc.Runtime.Boot
import Tcpcc.Runtime.Startup

/-!
# Whether an accepted configuration can be started

The values that the native command forwards, checked by the hosted side: the arguments of the
process, the address of the network device, and the requests for each route. A configuration is
startable if nothing is refused when nothing else fails.
-/

namespace Tcpcc.Native
open Control Records Resumption
open Tcpcc.Runtime (Kernel networkOrder)

/-- The arguments that `tcpcc_child_exec` gives to the hosted kernel. -/
def hostedArguments (config : Config) : List String :=
  [config.kernel, "--memory-mib=" ++ toString config.memoryMib,
    "--tcp-wmem-max-kib=" ++ toString config.tcpWmemMaxKib]

/-- `tcpcc_runtime_start` on a hosted kernel in which nothing outside fails. -/
def startup (inet : Inet) (config : Config) :
    (Bool × Option ℕ) × List (Request × Option Response) × Kernel :=
  (Dialogue.runtimeStart inet config).serve (fun q k => k.execute q) {}

def Unrefused (log : List (Request × Option Response)) : Prop :=
  ∀ e ∈ log, ∃ r, e.2 = some r ∧ r.status = 0

theorem Unrefused.cons {q : Request} {r : Response} {log : List (Request × Option Response)}
    (hr : r.status = 0) (h : Unrefused log) : Unrefused ((q, some r) :: log) :=
  List.forall_mem_cons.mpr ⟨⟨r, rfl, hr⟩, h⟩

theorem Unrefused.append {log log' : List (Request × Option Response)} (h : Unrefused log)
    (h' : Unrefused log') : Unrefused (log ++ log') :=
  List.forall_mem_append.mpr ⟨h, h'⟩

def Startable (inet : Inet) (config : Config) : Prop :=
  (Runtime.hostMemorySize (hostedArguments config)).isSome = true ∧
    (startup inet config).1.1 = true ∧ Unrefused (startup inet config).2.1

/-! ## Arguments of the process -/

theorem kstrtoul_toDigits (n : ℕ) : Runtime.kstrtoul (Nat.toDigits 10 n) =
    if n ≤ Runtime.ulongMax then some n else none := by
  have hdigits : ∀ c ∈ Nat.toDigits 10 n, c.isDigit = true := fun c =>
    Nat.isDigit_of_mem_toDigits (by decide) (by decide)
  have hvalue := Nat.ofDigitChars_toDigits (b := 10) (n := n) (by decide) (by decide)
  have hplus : (Nat.toDigits 10 n).head? ≠ some '+' := by
    intro h
    exact absurd (hdigits _ (List.mem_of_head? h)) (by decide)
  have hall := List.takeWhile_eq_self_iff.mpr hdigits
  have hnone := List.dropWhile_eq_nil_iff.mpr hdigits
  unfold Runtime.kstrtoul
  simp only [if_neg hplus, hall, hnone, hvalue]
  simp [Nat.toDigits_ne_nil]

theorem drop_argument (text : String) (rest : List Char) :
    (text.toList ++ rest).drop text.length = rest := by
  rw [← String.length_toList]
  exact List.drop_left

theorem bootArgument_memory (b : Runtime.BootArguments) (n : ℕ) :
    Runtime.bootArgument b ("--memory-mib=" ++ toString n) =
      if n ≤ Runtime.ulongMax ∧ Runtime.memoryInvalid n = false then some { b with memoryMib := n }
      else none := by
  have htake : Runtime.memoryArgument.toList.isPrefixOf
      (Runtime.memoryArgument.toList ++ Nat.toDigits 10 n) = true := by simp
  change Runtime.bootArgument b (Runtime.memoryArgument ++ toString n) = _
  unfold Runtime.bootArgument
  simp only [toList_append_toString, htake, if_true, drop_argument, kstrtoul_toDigits]
  by_cases hn : n ≤ Runtime.ulongMax <;> cases hinvalid : Runtime.memoryInvalid n <;>
    simp [hn, hinvalid]

theorem bootArgument_tcpWmem (b : Runtime.BootArguments) (n : ℕ) :
    Runtime.bootArgument b ("--tcp-wmem-max-kib=" ++ toString n) =
      if n ≤ Runtime.ulongMax ∧ Runtime.tcpWmemInvalid n = false then
        some { b with tcpWmemMaxKib := n }
      else none := by
  have hother : Runtime.memoryArgument.toList.isPrefixOf
      (Runtime.tcpWmemArgument.toList ++ Nat.toDigits 10 n) = false := rfl
  have htake : Runtime.tcpWmemArgument.toList.isPrefixOf
      (Runtime.tcpWmemArgument.toList ++ Nat.toDigits 10 n) = true := by simp
  change Runtime.bootArgument b (Runtime.tcpWmemArgument ++ toString n) = _
  unfold Runtime.bootArgument
  simp only [toList_append_toString, hother, htake, Bool.false_eq_true, if_false, if_true,
    drop_argument, kstrtoul_toDigits]
  by_cases hn : n ≤ Runtime.ulongMax <;> cases hinvalid : Runtime.tcpWmemInvalid n <;>
    simp [hn, hinvalid]

def hostedMemoryLimit : ℕ := Runtime.ulongMax / Runtime.memoryMibBytes

theorem hostMemorySize_isSome {inet : Inet} {config : Config} (h : config.Checked inet) :
    (Runtime.hostMemorySize (hostedArguments config)).isSome = true ↔
      config.memoryMib ≤ hostedMemoryLimit := by
  have hfirst : config.memoryMib ≤ Runtime.ulongMax := h.memory.2
  have hlow : Runtime.minimumMemoryMib ≤ config.memoryMib := h.memory.1
  have hsecond : config.tcpWmemMaxKib ≤ Runtime.ulongMax ∧
      Runtime.tcpWmemInvalid config.tcpWmemMaxKib = false := by
    rcases h.tcpWmem with hzero | ⟨hmin, hmax⟩
    · rw [hzero]
      decide
    · have hmin' : 64 ≤ config.tcpWmemMaxKib := hmin
      have hmax' : config.tcpWmemMaxKib ≤ 2097151 := hmax
      refine ⟨hmax'.trans (by decide), ?_⟩
      simp [Runtime.tcpWmemInvalid, Runtime.tcpWmemMinimumKib, Runtime.tcpWmemMaximumKib,
        Nat.not_lt.mpr hmin', Nat.not_lt.mpr hmax']
  have hmemory : Runtime.memoryInvalid config.memoryMib = false ↔
      config.memoryMib ≤ hostedMemoryLimit := by
    simp [Runtime.memoryInvalid, hostedMemoryLimit, Nat.not_lt.mpr hlow]
  rw [← hmemory]
  change (([_, _] : List String).foldlM Runtime.bootArgument {}).isSome = true ↔ _
  rw [List.foldlM_cons, bootArgument_memory]
  cases hinvalid : Runtime.memoryInvalid config.memoryMib with
  | true => simp
  | false =>
    simp only [hfirst, true_and, if_true, Option.bind_eq_bind, Option.bind_some, List.foldlM_cons,
      bootArgument_tcpWmem, hsecond, List.foldlM_nil, iff_true]
    rfl

/-! ## Payloads as the hosted side reads them -/

theorem networkOrder_append_zeros (bytes : List UInt8) (n : ℕ) :
    networkOrder (bytes ++ List.replicate n 0) = networkOrder bytes * 256 ^ n := by
  induction n with
  | zero => simp
  | succ n ih =>
    rw [List.replicate_succ', ← List.append_assoc]
    simp only [networkOrder, List.foldl_append, List.foldl_cons, List.foldl_nil] at ih ⊢
    rw [ih, pow_succ, UInt8.toNat_zero]
    ring

def paddedAddress (packed : List UInt8) : List UInt8 :=
  (packed ++ List.replicate addressBytes 0).take addressBytes

theorem length_paddedAddress (packed : List UInt8) : (paddedAddress packed).length = 16 := by
  simp [paddedAddress, addressBytes]

theorem paddedAddress_eq {packed : List UInt8} (h : packed.length ≤ 16) :
    paddedAddress packed = packed ++ List.replicate (16 - packed.length) 0 := by
  rw [paddedAddress, addressBytes, List.take_append, List.take_of_length_le h, List.take_replicate,
    Nat.min_eq_left (Nat.sub_le _ _)]

section
variable {version port : ℕ} {packed : List UInt8}

theorem ipEndpoint_fields (packed : List UInt8) (hversion : version < 256) (hport : port < 65536) :
    Runtime.IpEndpoint.ofBytes (payload (ipEndpoint version packed port)) =
      ⟨version, 0, networkOrder (paddedAddress packed), port, 0⟩ := by
  have hlength := length_paddedAddress packed
  obtain ⟨h₀, h₁, h₂, h₃, h₄⟩ := parts_payload (encodeLittle 1 version) (encodeLittle 3 0)
    (paddedAddress packed) (encodeLittle 2 port) (encodeLittle 2 0) (by simp [hlength, maxPayload])
  simp only [length_encodeLittle, hlength, Nat.reduceAdd] at h₀ h₁ h₂ h₃ h₄
  change Runtime.IpEndpoint.ofBytes (payload (encodeLittle 1 version ++ encodeLittle 3 0 ++
    paddedAddress packed ++ encodeLittle 2 port ++ encodeLittle 2 0)) = _
  simp only [Runtime.IpEndpoint.ofBytes, field, h₀, h₁, h₂, h₃, h₄, decode_encode]
  congr 1
  · exact Nat.mod_eq_of_lt hversion
  · exact Nat.mod_eq_of_lt hport

theorem l3Config_fields {prefixLen : ℕ} (hversion : version < 256) (hlen : prefixLen < 256) :
    L3.Config.ofBytes (payload (l3Config version packed prefixLen)) =
      ⟨version, encodeLittle 3 0, paddedAddress packed, prefixLen, encodeLittle 3 0⟩ := by
  have hlength := length_paddedAddress packed
  obtain ⟨h₀, h₁, h₂, h₃, h₄⟩ := parts_payload (encodeLittle 1 version) (encodeLittle 3 0)
    (paddedAddress packed) (encodeLittle 1 prefixLen) (encodeLittle 3 0)
    (by simp [hlength, maxPayload])
  simp only [length_encodeLittle, hlength, Nat.reduceAdd] at h₀ h₁ h₂ h₃ h₄
  change L3.Config.ofBytes (payload (encodeLittle 1 version ++ encodeLittle 3 0 ++
    paddedAddress packed ++ encodeLittle 1 prefixLen ++ encodeLittle 3 0)) = _
  simp only [L3.Config.ofBytes, field, h₀, h₁, h₂, h₃, h₄, decode_encode]
  congr 1
  · exact Nat.mod_eq_of_lt hversion
  · exact Nat.mod_eq_of_lt hlen

theorem serviceConfig_fields {maxConnections : ℕ} (hport : port < 65536)
    (hmax : maxConnections < 2 ^ 32) :
    Runtime.ServiceConfig.ofBytes (payload (serviceConfig port maxConnections)) =
      ⟨backendIpv4, port, 0, maxConnections, defaultAcceptBatch⟩ := by
  obtain ⟨h₀, h₁, h₂, h₃, h₄⟩ := parts_payload (encodeLittle 4 backendIpv4) (encodeLittle 2 port)
    (encodeLittle 2 0) (encodeLittle 4 maxConnections) (encodeLittle 4 defaultAcceptBatch)
    (by simp [maxPayload])
  simp only [length_encodeLittle, Nat.reduceAdd] at h₀ h₁ h₂ h₃ h₄
  simp only [Runtime.ServiceConfig.ofBytes, serviceConfig, field, h₀, h₁, h₂, h₃, h₄, decode_encode]
  congr 1
  · exact Nat.mod_eq_of_lt hport
  · exact Nat.mod_eq_of_lt hmax

end

/-! ## The requests of one route -/

def ipVersion (version : ℕ) : Runtime.IpVersion := if version = 4 then .v4 else .v6

def granted (q : Request) (handle : ℤ) (data : List UInt8) : Response :=
  Runtime.response q { status := 0, handle := handle } data

section
variable {inet : Inet} {config : Config} {route : Route} {k : Kernel} {m n version port : ℕ}
  {sk : Bridge.SockId} {packed : List UInt8}

/-- A request that the kernel leaves to a program of the control thread. -/
theorem execute_driven {q : Request} {p : Runtime.Thread Runtime.Answer} {a : Runtime.Answer}
    {t : Runtime.State}
    (hexec : k.execute q = (p.drive {} k.state).map fun a =>
      (Runtime.response q a.1 [], { k with state := a.2 }))
    (hdrive : p.drive {} k.state = some (a, t)) :
    k.execute q = some (Runtime.response q a [], { k with state := t }) := by
  rw [hexec, hdrive]
  rfl

theorem execute_socketIp (hversion : version = 4 ∨ version = 6)
    (h : Runtime.Startup m n none k.state) :
    ∃ t, k.execute (request opSocketIp 0 version 0 []) =
        some (granted (request opSocketIp 0 version 0 []) 1 [], { k with state := t }) ∧
      Runtime.Startup m n (some k.state.nextSock) t ∧
      t.place k.state.nextSock = { family := ipVersion version } ∧
      t.bridge.sock k.state.nextSock = {} := by
  obtain ⟨t, hdrive, ht⟩ := Runtime.startup_socketFamily
    (.ofWire (request opSocketIp 0 version 0 [])) (ipVersion version) h
  refine ⟨t, execute_driven ?_ hdrive, ht⟩
  rcases hversion with rfl | rfl <;> rfl

theorem execute_setCc {cc : List UInt8} (h : Runtime.Startup m n (some sk) k.state)
    (hcc : cc ≠ []) (hshort : cc.length < Runtime.caNameMax) :
    k.execute (request opSetCc 1 0 0 cc) = some (granted (request opSetCc 1 0 0 cc) 1 [],
      { k with congestion := Function.update k.congestion sk cc }) := by
  have hlookup : Runtime.lookup (Runtime.signed 1) k.state = some sk := h.lookup
  have hlength : ¬(cc.length = 0 ∨ Runtime.caNameMax ≤ cc.length) := by
    simp [hcc, Nat.not_le.mpr hshort]
  have htake : (payload cc).take cc.length = cc := by
    have hle : cc.length ≤ maxPayload := hshort.le.trans (by decide)
    rw [payload, List.take_take, Nat.min_eq_left hle, List.take_left]
  change some (k.setCc (request opSetCc 1 0 0 cc)) = _
  unfold Kernel.setCc
  simp only [request, hlookup, if_neg hlength, htake]
  rfl

theorem execute_getCc (h : Runtime.Startup m n (some sk) k.state) :
    k.execute (request opGetCc 1 0 0 []) =
      some (granted (request opGetCc 1 0 0 []) 1 (k.congestion sk), k) := by
  have hlookup : Runtime.lookup (Runtime.signed 1) k.state = some sk := h.lookup
  change some (k.getCc (request opGetCc 1 0 0 []), k) = _
  unfold Kernel.getCc
  simp only [request, hlookup]
  rfl

theorem bindIpCheck_endpoint (hversion : version = 4 ∨ version = 6)
    (hsize : packed.length = addressLength version) (hport : 0 < port ∧ port ≤ 65535)
    {s : Runtime.State} (hlookup : Runtime.lookup 1 s = some sk)
    (hfamily : (s.place sk).family = ipVersion version) :
    Runtime.bindIpCheck (.ofWire (request opBindIp 1 0 0 (ipEndpoint version packed port))) s =
      .ok (sk, ⟨ipVersion version, networkOrder packed, port⟩) := by
  have hsmall : version < 256 := by omega
  have hfields := ipEndpoint_fields packed hsmall (Nat.lt_succ_of_le hport.2)
  have hlength : (ipEndpoint version packed port).length = Runtime.ipEndpointSize := by
    have hpadded := length_paddedAddress packed
    simp only [paddedAddress] at hpadded
    simp [ipEndpoint, ipAddress, hpadded, Runtime.ipEndpointSize]
  have hport0 : port ≠ 0 := Nat.ne_of_gt hport.1
  unfold Runtime.bindIpCheck
  simp only [Runtime.Request.ofWire, request, hfields]
  rw [show Runtime.signed 1 = 1 from rfl, hlookup]
  simp only [hlength, hport0, ne_eq, not_true, or_self, if_false]
  rcases hversion with rfl | rfl
  · have hpadded : networkOrder (paddedAddress packed) = networkOrder packed * 2 ^ 96 := by
      rw [paddedAddress_eq (hsize.trans_le (by decide)), networkOrder_append_zeros, hsize]
      rfl
    simp [hfamily, ipVersion, hpadded]
  · have hpadded : paddedAddress packed = packed := by
      rw [paddedAddress_eq hsize.le, hsize]
      simp [addressLength]
    simp [hfamily, ipVersion, hpadded]

theorem execute_bindIp (hversion : version = 4 ∨ version = 6)
    (hsize : packed.length = addressLength version) (hport : 0 < port ∧ port ≤ 65535)
    (h : Runtime.Startup m n (some sk) k.state)
    (hplace : k.state.place sk = { family := ipVersion version }) :
    ∃ t, k.execute (request opBindIp 1 0 0 (ipEndpoint version packed port)) =
        some (granted (request opBindIp 1 0 0 (ipEndpoint version packed port)) 1 [],
          { k with state := t }) ∧
      Runtime.Startup m n (some sk) t ∧ t.bridge = k.state.bridge := by
  have hcheck := bindIpCheck_endpoint hversion hsize hport h.lookup (congrArg _ hplace)
  obtain ⟨t, hdrive, ht⟩ := Runtime.startup_bindIp h hcheck hplace
  exact ⟨t, execute_driven rfl hdrive, ht⟩

theorem execute_listen {backlog : ℕ} (hbacklog : 0 < backlog ∧ backlog ≤ maxBacklog)
    (h : Runtime.Startup m n (some sk) k.state) :
    ∃ t, k.execute (request opListen 1 backlog 0 []) =
        some (granted (request opListen 1 backlog 0 []) 1 [], { k with state := t }) ∧
      Runtime.Startup m n (some sk) t ∧
      t.bridge.sock sk = { k.state.bridge.sock sk with state := .listen } := by
  obtain ⟨t, hdrive, ht⟩ := Runtime.startup_listen
    (q := .ofWire (request opListen 1 backlog 0 [])) h rfl hbacklog
  exact ⟨t, execute_driven rfl hdrive, ht⟩

theorem startRequest_serviceConfig {maxConnections : ℕ} (hport : 0 < port ∧ port ≤ 65535)
    (hmax : maxConnections ≤ maxConnectionsLimit) :
    Runtime.StartRequest maxConnections
      (.ofWire (request opServiceStart 1 0 0 (serviceConfig port maxConnections))) := by
  have hmax' : maxConnections ≤ 1048575 := hmax
  have hfields := serviceConfig_fields (Nat.lt_succ_of_le hport.2)
    (hmax'.trans_lt (by decide) : maxConnections < 2 ^ 32)
  have hconfig : (Runtime.Request.ofWire (request opServiceStart 1 0 0
      (serviceConfig port maxConnections))).config =
      ⟨backendIpv4, port, 0, maxConnections, defaultAcceptBatch⟩ := hfields
  refine ⟨rfl, rfl, rfl, rfl, ?_, ?_, ?_⟩
  · have hlimit : ¬Bridge.sessionLimit < maxConnections := Nat.not_lt.mpr hmax'
    have hport0 : port ≠ 0 := Nat.ne_of_gt hport.1
    rw [hconfig]
    simp [Runtime.configInvalid, backendIpv4, Runtime.inaddrLoopback, hport0, hlimit,
      defaultAcceptBatch, Runtime.maxAcceptBatch]
  · rw [hconfig]
  · rw [hconfig]
    rfl

theorem execute_serviceStart {maxConnections : ℕ} (hport : 0 < port ∧ port ≤ 65535)
    (hmax : maxConnections ≤ maxConnectionsLimit)
    (h : Runtime.Startup maxConnections n (some sk) k.state)
    (hsock : k.state.bridge.sock sk = { state := .listen }) :
    ∃ r t, k.execute (request opServiceStart 1 0 0 (serviceConfig port maxConnections)) =
        some (r, { k with state := t }) ∧
      (n < Runtime.maxListeners →
        r = granted (request opServiceStart 1 0 0 (serviceConfig port maxConnections)) 1 [] ∧
          Runtime.Startup maxConnections (n + 1) none t) ∧
      (Runtime.maxListeners ≤ n → r.status = -ENOSPC) := by
  have hq := startRequest_serviceConfig hport hmax
  have hlisten : (k.state.bridge.sock sk).state = .listen := by rw [hsock]
  rcases Nat.lt_or_ge n Runtime.maxListeners with hroom | hfull
  · have hnull : (k.state.bridge.sock sk).userData = .null := by rw [hsock]
    obtain ⟨t, hdrive, ht⟩ := Runtime.startup_started h hq hlisten hnull hroom
    exact ⟨_, t, execute_driven rfl hdrive, fun _ => ⟨rfl, ht⟩,
      fun hfull => absurd hroom (Nat.not_lt.mpr hfull)⟩
  · have hdrive := Runtime.startup_refused h hq hlisten hfull
    exact ⟨_, k.state, execute_driven rfl hdrive,
      fun hroom => absurd hroom (Nat.not_lt.mpr hfull), fun _ => rfl⟩

structure Forwardable (inet : Inet) (config : Config) (route : Route) (packed : List UInt8) :
    Prop where
  version : route.listen.version = 4 ∨ route.listen.version = 6
  guest : inet.pton route.listen.version config.tunGuest = some packed
  size : packed.length = addressLength route.listen.version
  listenPort : 0 < route.listen.port ∧ route.listen.port ≤ 65535
  backendPort : 0 < route.backend.port ∧ route.backend.port ≤ 65535
  backlog : 0 < config.backlog ∧ config.backlog ≤ maxBacklog
  maxConnections : config.maxConnections ≤ maxConnectionsLimit
  cc : bytesOf config.cc ≠ [] ∧ (bytesOf config.cc).length < Runtime.caNameMax

theorem startRoute_serves (hroute : Forwardable inet config route packed)
    (h : Runtime.Startup config.maxConnections n none k.state) :
    (Dialogue.startRoute inet config route).Serves (fun q k => k.execute q) k fun a log k' =>
      (n < Runtime.maxListeners → a = some 1 ∧ Unrefused log ∧
        Runtime.Startup config.maxConnections (n + 1) none k'.state) ∧
      (Runtime.maxListeners ≤ n → a = none) := by
  obtain ⟨t₁, hopen, h₁, hplace, hsock⟩ := execute_socketIp hroute.version h
  refine Dialogue.Serves.call hopen ?_
  change Dialogue.Serves _ (Dialogue.controlCall opSetCc 1 0 _ >>= _) _ _
  refine Dialogue.Serves.call (execute_setCc h₁ hroute.cc.1 hroute.cc.2) ?_
  change Dialogue.Serves _ (Dialogue.controlCall opGetCc 1 0 _ >>= _) _ _
  refine Dialogue.Serves.call (execute_getCc h₁) ?_
  have hverify : ∀ q : Request,
      verifiesCc config.cc (0, some (granted q 1 (bytesOf config.cc))) = true := by
    intro q
    simp [verifiesCc, granted, Runtime.response]
  simp only [Function.update_self]
  rw [if_neg (by rw [show (granted _ 1 (bytesOf config.cc)).status = 0 from rfl, hverify]; decide),
    hroute.guest]
  obtain ⟨t₂, hbind, h₂, hbridge⟩ := execute_bindIp (k := { k with
    state := t₁
    congestion := Function.update k.congestion k.state.nextSock (bytesOf config.cc) })
    hroute.version hroute.size hroute.listenPort h₁ hplace
  refine Dialogue.Serves.call hbind ?_
  change Dialogue.Serves _ (Dialogue.controlCall opListen 1 _ _ >>= _) _ _
  obtain ⟨t₃, hlisten, h₃, hlistening⟩ := execute_listen (k := { k with
    state := t₂
    congestion := Function.update k.congestion k.state.nextSock (bytesOf config.cc) })
    hroute.backlog h₂
  refine Dialogue.Serves.call hlisten ?_
  change Dialogue.Serves _ (Dialogue.controlCall opServiceStart 1 0 _ >>= _) _ _
  have hsock₃ : t₃.bridge.sock k.state.nextSock = { state := .listen } := by
    rw [hlistening, hbridge, hsock]
  obtain ⟨r, t₄, hstart, hroom, hfull⟩ := execute_serviceStart (k := { k with
    state := t₃
    congestion := Function.update k.congestion k.state.nextSock (bytesOf config.cc) })
    hroute.backendPort hroute.maxConnections h₃ hsock₃
  refine Dialogue.Serves.call hstart ⟨fun hn => ?_, fun hn => ?_⟩
  · obtain ⟨rfl, ht₄⟩ := hroom hn
    refine ⟨rfl, ?_, ht₄⟩
    repeat refine Unrefused.cons rfl ?_
    exact nofun
  · change newHandle (r.status, some r) = none
    rw [hfull hn]
    rfl

theorem startRoutes_serves {routes : List Route}
    (hroutes : ∀ r ∈ routes, Forwardable inet config r packed)
    (hn : n ≤ Runtime.maxListeners) (h : Runtime.Startup config.maxConnections n none k.state) :
    (Dialogue.startRoutes inet config 1 routes).Serves (fun q k => k.execute q) k fun a log _ =>
      (a = true ↔ n + routes.length ≤ Runtime.maxListeners) ∧ (a = true → Unrefused log) := by
  induction routes generalizing n k with
  | nil => exact ⟨⟨fun _ => hn, fun _ => rfl⟩, fun _ => nofun⟩
  | cons route routes ih =>
    obtain ⟨hroute, hrest⟩ := List.forall_mem_cons.mp hroutes
    refine Dialogue.Serves.bind ((startRoute_serves hroute h).mono ?_)
    rintro a log k' ⟨hroom, hfull⟩
    rw [List.length_cons, Nat.add_comm routes.length, ← Nat.add_assoc]
    rcases Nat.lt_or_ge n Runtime.maxListeners with hlt | hge
    · obtain ⟨rfl, hlog, hk'⟩ := hroom hlt
      rw [if_pos rfl]
      refine (ih hrest hlt hk').mono ?_
      rintro b log' u ⟨hdone, hunrefused⟩
      exact ⟨hdone, fun hb => hlog.append (hunrefused hb)⟩
    · rw [hfull hge, if_neg (by decide)]
      refine ⟨⟨fun hfalse => ?_, fun hle => ?_⟩, fun hfalse => ?_⟩
      · cases hfalse
      · omega
      · cases hfalse

/-! ## The whole startup -/

theorem execute_hello : k.execute (request opHello 0 0 0 []) =
    some (granted (request opHello 0 0 0 []) 0 Runtime.helloData, k) := rfl

theorem helloSuits_helloData (hmax : config.maxConnections ≤ maxConnectionsLimit) (q : Request) :
    helloSuits config (granted q 0 Runtime.helloData) = true := by
  have hlength : Runtime.helloData.length = helloSize := by decide
  have hversion : field Runtime.helloData 0 4 = controlVersion := by decide
  have hfeatures : field Runtime.helloData 4 4 = Runtime.featureBits := by decide
  have hlimit : field Runtime.helloData 8 4 = maxConnectionsLimit := by decide
  have hrequired : ∀ count, Runtime.featureBits &&& requiredFeatures count =
      requiredFeatures count := by
    intro count
    unfold requiredFeatures
    split <;> decide
  simp [helloSuits, granted, Runtime.response, hlength, hversion, hfeatures, hlimit,
    hrequired, hmax]

def unusableGuest (version : ℕ) (packed : List UInt8) : Bool :=
  version == 6 && (L3.ipv6AddrAny packed || L3.ipv6AddrIsMulticast packed)

theorem attachCheck_l3Config (hversion : version = 4 ∨ version = 6)
    (hsize : packed.length = addressLength version) :
    L3.attachCheck false (Runtime.signed hostedTunFd) (.ofBytes (payload
      (l3Config version packed (if version = 4 then 32 else 128)))) =
      if unusableGuest version packed then -EINVAL else 0 := by
  have hzeros : L3.anyByte (encodeLittle 3 0) = false := by decide
  have hfd : ¬Runtime.signed hostedTunFd < 3 := by decide
  rcases hversion with rfl | rfl
  · have hdrop : packed.drop 4 = [] := List.drop_eq_nil_of_le hsize.le
    have hrest : L3.anyByte ((paddedAddress packed).drop 4) = false := by
      rw [paddedAddress_eq (hsize.trans_le (by decide)), List.drop_append, hdrop, hsize]
      simp [L3.anyByte]
    rw [l3Config_fields (by decide) (by decide)]
    simp [L3.attachCheck, hzeros, hfd, hrest, unusableGuest]
  · have hpadded : paddedAddress packed = packed := by
      rw [paddedAddress_eq hsize.le, hsize]
      simp [addressLength]
    rw [l3Config_fields (by decide) (by decide), hpadded]
    simp [L3.attachCheck, hzeros, hfd, unusableGuest]

theorem execute_l3AttachIp (hversion : version = 4 ∨ version = 6)
    (hsize : packed.length = addressLength version) (hdetached : k.attached = false) :
    ∃ r k', k.execute (request opL3AttachIp hostedTunFd 0 0
        (l3Config version packed (if version = 4 then 32 else 128))) = some (r, k') ∧
      k'.state = k.state ∧
      (if unusableGuest version packed then r.status = -EINVAL
        else r = granted (request opL3AttachIp hostedTunFd 0 0
          (l3Config version packed (if version = 4 then 32 else 128))) k.ifindex []) := by
  have hlength : (l3Config version packed (if version = 4 then 32 else 128)).length =
      L3.configSize := by
    have hpadded := length_paddedAddress packed
    simp only [paddedAddress] at hpadded
    simp [l3Config, ipAddress, hpadded, L3.configSize]
  have hcheck := attachCheck_l3Config hversion hsize
  refine ⟨(k.l3AttachIp (request opL3AttachIp hostedTunFd 0 0
    (l3Config version packed (if version = 4 then 32 else 128)))).1, _, rfl, ?_⟩
  change (k.l3AttachIp _).2.state = _ ∧ _
  unfold Kernel.l3AttachIp
  simp only [request, hlength, hdetached, hcheck, ne_eq, not_true, or_self, if_false]
  cases unusableGuest version packed with
  | true | false => exact ⟨rfl, rfl⟩

theorem runtimeStart_serves {first : Route} {routes : List Route}
    (hconfig : config.routes = first :: routes)
    (hroutes : ∀ r ∈ config.routes, Forwardable inet config r packed)
    (hstate : Runtime.Startup config.maxConnections 0 none k.state) (hdetached : k.attached = false)
    (hindex : k.ifindex = 2) :
    (Dialogue.runtimeStart inet config).Serves (fun q k => k.execute q) k fun a log _ =>
      (a.1 = true ↔ config.routes.length ≤ Runtime.maxListeners ∧
        unusableGuest first.listen.version packed = false) ∧ (a.1 = true → Unrefused log) := by
  rw [hconfig] at hroutes
  obtain ⟨hfirst, hrest⟩ := List.forall_mem_cons.mp hroutes
  have hsuits := helloSuits_helloData hfirst.maxConnections (request opHello 0 0 0 [])
  obtain ⟨r, k₁, hattach, hk₁, hr⟩ := execute_l3AttachIp hfirst.version hfirst.size hdetached
  unfold Dialogue.runtimeStart
  rw [hconfig]
  refine Dialogue.Serves.call execute_hello ?_
  have hhello : ¬((granted (request opHello 0 0 0 []) 0 Runtime.helloData).status ≠ 0 ∨
      ((some (granted (request opHello 0 0 0 []) 0 Runtime.helloData)).map
        (helloSuits config)).getD false = false) := by
    rintro (h | h)
    · exact h rfl
    · exact absurd (hsuits.symm.trans h) (by decide)
  rw [if_neg hhello]
  dsimp only
  rw [hfirst.guest]
  refine Dialogue.Serves.call hattach ?_
  cases hguest : unusableGuest first.listen.version packed with
  | true =>
    rw [hguest, if_pos rfl] at hr
    have hnone : newHandle (r.status, some r) = none := by
      rw [hr]
      rfl
    rw [hnone]
    exact ⟨⟨nofun, nofun⟩, nofun⟩
  | false =>
    rw [hguest, if_neg (by decide)] at hr
    have hsome : newHandle (r.status, some r) = some 2 := by
      rw [hr, hindex]
      rfl
    have hstatus : r.status = 0 := by
      rw [hr]
      rfl
    rw [hsome]
    refine Dialogue.Serves.bind ((startRoute_serves hfirst (hk₁ ▸ hstate)).mono ?_)
    rintro a log k₂ ⟨hroom, -⟩
    obtain ⟨rfl, hlog, hk₂⟩ := hroom (by decide)
    refine Dialogue.Serves.bind ((startRoutes_serves hrest (by decide) hk₂).mono ?_)
    rintro b log' u ⟨hdone, hunrefused⟩
    rw [List.length_cons, Nat.add_comm routes.length]
    refine ⟨hdone.trans (and_iff_left rfl).symm, fun hb => ?_⟩
    refine Unrefused.cons rfl (Unrefused.cons hstatus (hlog.append ?_))
    exact (hunrefused hb).append nofun

end

theorem Config.Complete.forwardable {inet : Inet} {config : Config} (hinet : inet.Lawful)
    (h : config.Complete inet) :
    ∃ packed, ∀ r ∈ config.routes, Forwardable inet config r packed := by
  obtain ⟨first, hfirst⟩ := List.exists_mem_of_ne_nil _ h.nonempty
  obtain ⟨text, packed, htext, hguest⟩ := h.guest first hfirst
  have hversion := (h.routes.listen first hfirst).version
  refine ⟨packed, fun r hr => ?_⟩
  have hfamily := h.routes.family r hr first hfirst
  have hcc : config.cc.toList ≠ [] := by simpa using h.selected
  refine ⟨hfamily ▸ hversion, ?_, ?_, (h.routes.listen r hr).port, (h.routes.backend r hr).port,
    h.backlog, h.maxConnections, ?_, ?_⟩
  · rw [hfamily, hguest]
    exact hinet.ntop_pton hversion (hinet.size htext)
  · rw [hfamily]
    exact hinet.size htext
  · simpa [bytesOf] using hcc
  · have hshort := h.cc
    rw [← String.length_toList] at hshort
    simpa [bytesOf, Runtime.caNameMax] using Nat.lt_succ_of_le hshort

structure Config.Fits (inet : Inet) (config : Config) : Prop where
  memory : config.memoryMib ≤ hostedMemoryLimit
  listeners : config.routes.length ≤ Runtime.maxListeners
  guest : ∀ r ∈ config.routes, ∀ packed, inet.pton r.listen.version config.tunGuest = some packed →
    unusableGuest r.listen.version packed = false

theorem Config.Complete.startable_iff {inet : Inet} {config : Config} (hinet : inet.Lawful)
    (h : config.Complete inet) : Startable inet config ↔ config.Fits inet := by
  obtain ⟨packed, hroutes⟩ := h.forwardable hinet
  obtain ⟨first, routes, hconfig⟩ := List.exists_cons_of_ne_nil h.nonempty
  have hfirst : first ∈ config.routes := by simp [hconfig]
  have hguest : (∀ r ∈ config.routes, ∀ p, inet.pton r.listen.version config.tunGuest = some p →
      unusableGuest r.listen.version p = false) ↔
      unusableGuest first.listen.version packed = false := by
    refine ⟨fun hall => hall first hfirst packed (hroutes first hfirst).guest, ?_⟩
    intro husable r hr p hp
    rw [(hroutes r hr).guest, Option.some.injEq] at hp
    rw [← hp, h.routes.family r hr first hfirst]
    exact husable
  obtain ⟨hdone, hunrefused⟩ := runtimeStart_serves hconfig hroutes
    (Runtime.startup_initial config.maxConnections) (k := {}) rfl rfl
  constructor
  · rintro ⟨hboot, hstart, -⟩
    obtain ⟨hcount, husable⟩ := hdone.mp hstart
    exact ⟨(hostMemorySize_isSome h.toChecked).mp hboot, hcount, hguest.mpr husable⟩
  · intro hfits
    have hstart := hdone.mpr ⟨hfits.listeners, hguest.mp hfits.guest⟩
    exact ⟨(hostMemorySize_isSome h.toChecked).mpr hfits.memory, hstart, hunrefused hstart⟩

/-- An accepted configuration can be started unless its memory does not fit into an address, there
are more routes than the hosted service has listeners, or the hosted side refuses the guest
address. -/
theorem accepted_startable_iff {inet : Inet} {strtod : String → Option Float} {config : Config}
    (hinet : inet.Lawful) (h : Accepted inet strtod config) :
    Startable inet config ↔ config.Fits inet :=
  h.complete.startable_iff hinet

/-! A file with forwards to one backend. -/

def noFloat (_ : String) : Option Float := none

def listenText (port : ℕ) : String := "192.0.2.1:" ++ toString port

def listenEndpoint (port : ℕ) : Endpoint := ⟨4, "192.0.2.1", [192, 0, 2, 1], port⟩

def forwardRoute (port : ℕ) : Route :=
  ⟨listenEndpoint port, ⟨4, "127.0.0.1", [127, 0, 0, 1], 8080⟩⟩

def forwardFile (ports : List ℕ) : FileConfig where
  cc := "cubic"
  forwards := ports.map fun port => (listenText port, "127.0.0.1:8080")

def forwardConfig (ports : List ℕ) : Config where
  kernel := "vmlinux"
  cc := "cubic"
  routes := ports.map forwardRoute
  tunHost := "198.18.0.1"
  tunGuest := "198.18.0.2"

theorem parseEndpoint_listenText {port : ℕ} (hport : 0 < port ∧ port ≤ 65535) :
    parseEndpoint dottedInet (listenText port) = some (listenEndpoint port) := by
  have hsplit : splitEndpoint (listenText port).toList =
      some (4, "192.0.2.1".toList, Nat.toDigits 10 port) := by
    have htext : (listenText port).toList =
        "192.0.2.1".toList ++ ':' :: Nat.toDigits 10 port := toList_append_toString _ _
    rw [htext]
    exact splitEndpoint_v4 (by decide) (by decide) (not_mem_toDigits (by decide))
  have haddress : dottedInet.pton 4 (String.ofList "192.0.2.1".toList) = some [192, 0, 2, 1] := by
    decide +kernel
  have hname : dottedInet.ntop 4 [192, 0, 2, 1] = "192.0.2.1" := by decide +kernel
  have hport0 : port ≠ 0 := Nat.ne_of_gt hport.1
  unfold parseEndpoint
  simp only [hsplit, parseUnsigned_toDigits hport.2 (by decide), haddress, hport0, hname]
  rfl

theorem addForward_listenText {config : Config} {ports : List ℕ} {port : ℕ}
    (hroutes : config.routes = ports.map forwardRoute) (hport : 0 < port ∧ port ≤ 65535)
    (hnew : port ∉ ports) :
    addForward dottedInet config (listenText port) "127.0.0.1:8080" =
      .ok { config with routes := (ports ++ [port]).map forwardRoute } := by
  have hbackend : parseEndpoint dottedInet "127.0.0.1:8080" =
      some ⟨4, "127.0.0.1", [127, 0, 0, 1], 8080⟩ := by decide +kernel
  have hfamily : (config.routes.head?.map fun r => r.listen.version).getD 4 = 4 := by
    rw [hroutes]
    cases ports <;> rfl
  have hports : (config.routes.any fun r => r.listen.port == port) = false := by
    rw [hroutes]
    simp only [List.any_map, List.any_eq_false]
    intro p hp heq
    exact hnew (beq_iff_eq.mp heq ▸ hp)
  have hvalid : validateNewListen config (listenEndpoint port) = .ok () := by
    simp [validateNewListen, listenEndpoint, hfamily, hports]
  unfold addForward
  simp only [parseEndpoint_listenText hport, hbackend, hvalid, hroutes, List.map_append]
  rfl

theorem forwards_listenText (config : Config) (ports : List ℕ) {more : List ℕ}
    (hroutes : config.routes = ports.map forwardRoute)
    (hports : ∀ port ∈ more, 0 < port ∧ port ≤ 65535) (hnodup : (ports ++ more).Nodup) :
    (forwardFile more).forwards.foldlM (fun config f => addForward dottedInet config f.1 f.2)
      config = .ok { config with routes := (ports ++ more).map forwardRoute } := by
  induction more generalizing config ports with
  | nil =>
    rw [List.append_nil, ← hroutes]
    rfl
  | cons port more ih =>
    obtain ⟨hport, hmore⟩ := List.forall_mem_cons.mp hports
    have hnew : port ∉ ports := fun hp =>
      (List.nodup_append.mp hnodup).2.2 port hp port List.mem_cons_self rfl
    rw [← List.singleton_append, ← List.append_assoc] at hnodup
    have hrest := ih { config with routes := (ports ++ [port]).map forwardRoute } (ports ++ [port])
      rfl hmore hnodup
    rw [List.append_assoc, List.singleton_append] at hrest
    change (addForward dottedInet config (listenText port) "127.0.0.1:8080" >>= fun config =>
      (forwardFile more).forwards.foldlM (fun config f => addForward dottedInet config f.1 f.2)
        config) = _
    rw [addForward_listenText hroutes hport hnew]
    exact hrest

theorem forwardConfig_accepted {first : ℕ} {ports : List ℕ}
    (hports : ∀ port ∈ first :: ports, 0 < port ∧ port ≤ 65535)
    (hnodup : (first :: ports).Nodup) :
    Accepted dottedInet noFloat (forwardConfig (first :: ports)) := by
  have hinit : configInit (some "vmlinux") = .ok { kernel := "vmlinux" } := rfl
  have hcc : setCc { kernel := "vmlinux" } "cubic" =
    .ok { kernel := "vmlinux", cc := "cubic" } := by rfl
  have hsettings : applySettings dottedInet { kernel := "vmlinux" } (forwardFile (first :: ports)) =
      .ok { kernel := "vmlinux", cc := "cubic", routes := (first :: ports).map forwardRoute } := by
    refine bind_eq_ok.mpr ⟨_, hcc, bind_eq_ok.mpr ⟨_, ?_, rfl⟩⟩
    exact forwards_listenText { kernel := "vmlinux", cc := "cubic" } [] rfl hports hnodup
  have hfile : applyFileConfig dottedInet { kernel := "vmlinux" } (forwardFile (first :: ports))
      false = .ok (forwardConfig (first :: ports)) := by
    refine bind_eq_ok.mpr ⟨_, hsettings, ?_⟩
    have hhost : parseIp dottedInet "198.18.0.1" 4 = some "198.18.0.1" := by decide +kernel
    have hguest : parseIp dottedInet "198.18.0.2" 4 = some "198.18.0.2" := by decide +kernel
    simp [finalize, forwardFile, forwardConfig, forwardRoute, listenEndpoint, hhost, hguest]
  exact .file hinit hfile

theorem accepted_startable_two_routes :
    Startable dottedInet (forwardConfig [80, 443]) := by
  have haccepted : Accepted dottedInet noFloat (forwardConfig [80, 443]) :=
    forwardConfig_accepted (by decide +kernel) (by decide)
  refine (accepted_startable_iff dottedInet_lawful haccepted).mpr ⟨by decide, by decide, ?_⟩
  intro r hr packed _
  obtain ⟨port, -, rfl⟩ := List.mem_map.mp hr
  rfl

theorem too_many_forwards :
    Accepted dottedInet noFloat (forwardConfig (List.range' 1000 65)) ∧
      ¬Startable dottedInet (forwardConfig (List.range' 1000 65)) := by
  have haccepted : Accepted dottedInet noFloat (forwardConfig (List.range' 1000 65)) :=
    forwardConfig_accepted (by decide +kernel) (by decide +kernel)
  refine ⟨haccepted, fun h => ?_⟩
  have hlisteners := ((haccepted.complete.startable_iff dottedInet_lawful).mp h).listeners
  exact absurd hlisteners (by decide)

end Tcpcc.Native
