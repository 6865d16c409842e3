import Governance.Feed.Location
import Governance.Feed.Policy
import Governance.Proofs.Feed.Form

set_option autoImplicit false

namespace Governance

def PolicyId.unaddressed (p : PolicyId) : PolicyId := { p with uri := none }

def MethodPolicy.unaddressed (m : MethodPolicy) : MethodPolicy := { m with id := m.id.unaddressed }

def ServicePolicy.unaddressed (s : ServicePolicy) : ServicePolicy :=
  { s with id := s.id.unaddressed, methods := s.methods.map MethodPolicy.unaddressed }

end Governance

namespace Governance.Feed

open Codec

def optionalNumber : Form := .nullable (.number UInt64.size)

def optionalSmallNumber : Form := .nullable (.number UInt32.size)

def optionalText : Form := .nullable .text

def optionalNames : Form := .nullable .names

def failoverForm : Form := .record
  [("id", optionalNumber), ("retry", optionalSmallNumber),
    ("timeoutInMilliseconds", optionalNumber)]

def retryForm : Form := .record
  [("id", optionalNumber), ("retry", optionalSmallNumber), ("retryInterval", optionalNumber),
    ("timeout", optionalNumber), ("retryableStatusCodes", optionalNames),
    ("retryableExceptions", optionalNames)]

def breakerForm : Form := .record
  [("id", optionalNumber), ("failureThreshold", optionalSmallNumber),
    ("recoveryTimeoutMs", optionalNumber), ("halfOpenMaxCalls", optionalSmallNumber)]

def limitForms : List (String × Form) :=
  [("failover", .nullable failoverForm), ("retry", .nullable retryForm),
    ("circuitBreaker", .nullable breakerForm)]

def defaultsForm : Form := .record limitForms

def conditionForm : Form := .record
  [("key", .text), ("opType", .word ["equal", "notEqual", "in", "notIn", "prefix"]),
    ("values", .list .text)]

def idForms : List (String × Form) := [("id", optionalNumber), ("tags", .nullable .table)]

def policyIdForm : Form := .record idForms

def methodForm : Form := .record
  ([("name", .text)] ++ idForms ++ [("conditions", .list conditionForm)] ++ limitForms)

def serviceForm : Form := .record
  ([("name", .text), ("group", optionalText)] ++ idForms ++ limitForms ++
    [("methods", .list methodForm)])

def locationForm : Form := .record
  [("region", optionalText), ("zone", optionalText), ("liveSpaceId", optionalNumber),
    ("unit", optionalText), ("cell", optionalText), ("laneSpaceId", optionalNumber),
    ("lane", optionalText), ("cluster", optionalText), ("host", optionalText), ("ip", optionalText)]

/-! Each codec writes its form. -/

theorem number_writes : uint64.nullable.Writes optionalNumber := nullable_writes uint64_writes

theorem smallNumber_writes : uint32.nullable.Writes optionalSmallNumber :=
  nullable_writes uint32_writes

theorem text_nullable_writes : text.nullable.Writes optionalText := nullable_writes text_writes

theorem names_nullable_writes : names.nullable.Writes optionalNames := nullable_writes names_writes

theorem failover_writes : failover.Writes failoverForm := by
  have fields : WritesFields _ _ :=
    number_writes.cons "id" <| smallNumber_writes.cons "retry" <|
    number_writes.cons "timeoutInMilliseconds" writesFields_nil
  refine (fields.comp (fun p : FailoverPolicy => (p.id, p.retry, p.timeout, ())) ?_).record
    (fun _ => rfl)
  rintro ⟨id, retry, timeout, _⟩
  exact ⟨⟨id, retry, timeout⟩, rfl⟩

theorem retry_writes : retry.Writes retryForm := by
  have fields : WritesFields _ _ :=
    number_writes.cons "id" <| smallNumber_writes.cons "retry" <|
    number_writes.cons "retryInterval" <| number_writes.cons "timeout" <|
    names_nullable_writes.cons "retryableStatusCodes" <|
    names_nullable_writes.cons "retryableExceptions" writesFields_nil
  refine (fields.comp (fun p : RetryPolicy =>
    (p.id, p.retry, p.interval, p.timeout, p.statusCodes, p.exceptions, ())) ?_).record
    (fun _ => rfl)
  rintro ⟨id, retry, interval, timeout, statusCodes, exceptions, _⟩
  exact ⟨⟨id, retry, interval, timeout, statusCodes, exceptions⟩, rfl⟩

theorem breaker_writes : breaker.Writes breakerForm := by
  have fields : WritesFields _ _ :=
    number_writes.cons "id" <| smallNumber_writes.cons "failureThreshold" <|
    number_writes.cons "recoveryTimeoutMs" <|
    smallNumber_writes.cons "halfOpenMaxCalls" writesFields_nil
  refine (fields.comp (fun p : BreakerPolicy =>
    (p.id, p.failureThreshold, p.recoveryTimeout, p.halfOpenMaxCalls, ())) ?_).record
    (fun _ => rfl)
  rintro ⟨id, failureThreshold, recoveryTimeout, halfOpenMaxCalls, _⟩
  exact ⟨⟨id, failureThreshold, recoveryTimeout, halfOpenMaxCalls⟩, rfl⟩

theorem limitFields_write : WritesFields limitFields limitForms := by
  have fields : WritesFields _ _ :=
    (nullable_writes failover_writes).cons "failover" <|
    (nullable_writes retry_writes).cons "retry" <|
    (nullable_writes breaker_writes).cons "circuitBreaker" writesFields_nil
  refine fields.comp (fun l : Limits => (l.failover, l.retry, l.breaker, ())) ?_
  rintro ⟨failover, retry, breaker, _⟩
  exact ⟨⟨failover, retry, breaker⟩, rfl⟩

theorem defaults_writes : defaults.Writes defaultsForm := limitFields_write.record fun _ => rfl

theorem op_writes : op.Writes (.word ["equal", "notEqual", "in", "notIn", "prefix"]) := by
  intro j
  constructor
  · rintro ⟨name, known, rfl⟩
    simp only [List.mem_cons, List.not_mem_nil, or_false] at known
    rcases known with rfl | rfl | rfl | rfl | rfl
    · exact ⟨.equal, rfl⟩
    · exact ⟨.notEqual, rfl⟩
    · exact ⟨.oneOf, rfl⟩
    · exact ⟨.noneOf, rfl⟩
    · exact ⟨.startsWith, rfl⟩
  · rintro ⟨o, rfl⟩
    exact ⟨opName o, by cases o <;> decide, rfl⟩

theorem condition_writes : condition.Writes conditionForm := by
  have fields : WritesFields _ _ :=
    text_writes.cons "key" <| op_writes.cons "opType" <|
    (list_writes text_writes).cons "values" writesFields_nil
  refine (fields.comp (fun c : Tag.Condition => (c.key, c.op, c.values, ())) ?_).record
    (fun _ => rfl)
  rintro ⟨key, op, values, _⟩
  exact ⟨⟨key, op, values⟩, rfl⟩

-- Of an identity only the number and the tags are written, so any address will do.
theorem idFields_write : WritesFields idFields idForms := by
  have fields : WritesFields _ _ :=
    number_writes.cons "id" <| (nullable_writes table_writes).cons "tags" writesFields_nil
  refine fields.comp (fun p : PolicyId => (p.id, p.tags, ())) ?_
  rintro ⟨id, tags, _⟩
  exact ⟨⟨id, none, tags⟩, rfl⟩

theorem policyId_writes : policyId.Writes policyIdForm := idFields_write.record fun _ => rfl

theorem methodAt_writes (level : Nat) : (methodAt level).Writes methodForm := by
  have fields := ((text_writes.cons "name" writesFields_nil).append idFields_write).append
    ((list_writes condition_writes).cons "conditions" writesFields_nil) |>.append limitFields_write
  refine (fields.comp (fun m : MethodPolicy =>
    ((((m.name, ()), m.id), (m.conditions, ())), m.limits)) ?_).record (fun _ => rfl)
  rintro ⟨⟨⟨⟨name, _⟩, id⟩, conditions, _⟩, limits⟩
  exact ⟨⟨name, id, conditions, limits⟩, rfl⟩

theorem service_writes : service.Writes serviceForm := by
  have fields := ((text_writes.cons "name" <| text_nullable_writes.cons "group"
    writesFields_nil).append idFields_write).append limitFields_write |>.append
    ((list_writes (methodAt_writes 3)).cons "methods" writesFields_nil)
  refine (fields.comp (fun s : ServicePolicy =>
    ((((s.name, s.group, ()), s.id), s.limits), (s.methods, ()))) ?_).record (fun _ => rfl)
  rintro ⟨⟨⟨⟨name, group, _⟩, id⟩, limits⟩, methods, _⟩
  exact ⟨⟨name, group, id, limits, methods⟩, rfl⟩

theorem location_writes : location.Writes locationForm := by
  have fields : WritesFields _ _ :=
    text_nullable_writes.cons "region" <| text_nullable_writes.cons "zone" <|
    number_writes.cons "liveSpaceId" <| text_nullable_writes.cons "unit" <|
    text_nullable_writes.cons "cell" <| number_writes.cons "laneSpaceId" <|
    text_nullable_writes.cons "lane" <| text_nullable_writes.cons "cluster" <|
    text_nullable_writes.cons "host" <| text_nullable_writes.cons "ip" writesFields_nil
  refine (fields.comp (fun l : Location => (l.region, l.zone, l.liveSpaceId, l.unit, l.cell,
    l.laneSpaceId, l.lane, l.cluster, l.host, l.ip, ())) ?_).record (fun _ => rfl)
  rintro ⟨region, zone, liveSpaceId, unit, cell, laneSpaceId, lane, cluster, host, ip, _⟩
  exact ⟨⟨region, zone, liveSpaceId, unit, cell, laneSpaceId, lane, cluster, host, ip⟩, rfl⟩

/-! Each codec reads its form. -/

theorem number_lawful : uint64.nullable.Lawful := nullable_lawful uint64_lawful rfl

theorem smallNumber_lawful : uint32.nullable.Lawful := nullable_lawful uint32_lawful rfl

theorem text_nullable_lawful : text.nullable.Lawful := nullable_lawful text_lawful rfl

theorem names_nullable_lawful : names.nullable.Lawful := nullable_lawful names_lawful rfl

open Record (closed?_bind open?_bind field_bind optional_bind)

theorem failover_lawful : failover.Lawful := by
  intro p
  simp only [failover]
  rw [closed?_bind _ (by rfl) (by decide), optional_bind number_lawful (by rfl),
    optional_bind smallNumber_lawful (by rfl), optional_bind number_lawful (by rfl)]
  rfl

theorem retry_lawful : retry.Lawful := by
  intro p
  simp only [retry]
  rw [closed?_bind _ (by rfl) (by decide), optional_bind number_lawful (by rfl),
    optional_bind smallNumber_lawful (by rfl), optional_bind number_lawful (by rfl),
    optional_bind number_lawful (by rfl), optional_bind names_nullable_lawful (by rfl),
    optional_bind names_nullable_lawful (by rfl)]
  rfl

theorem breaker_lawful : breaker.Lawful := by
  intro p
  simp only [breaker]
  rw [closed?_bind _ (by rfl) (by decide), optional_bind number_lawful (by rfl),
    optional_bind smallNumber_lawful (by rfl), optional_bind number_lawful (by rfl),
    optional_bind smallNumber_lawful (by rfl)]
  rfl

theorem limitsOf?_eq {r : Record} {l : Limits}
    (failoverThere : r.given.lookup "failover" = some (failover.nullable.encode l.failover))
    (retryThere : r.given.lookup "retry" = some (retry.nullable.encode l.retry))
    (breakerThere : r.given.lookup "circuitBreaker" = some (breaker.nullable.encode l.breaker)) :
    limitsOf? r = some l := by
  unfold limitsOf?
  rw [optional_bind (nullable_lawful failover_lawful rfl) failoverThere,
    optional_bind (nullable_lawful retry_lawful rfl) retryThere,
    optional_bind (nullable_lawful breaker_lawful rfl) breakerThere]
  rfl

theorem defaults_lawful : defaults.Lawful := by
  intro l
  simp only [defaults]
  rw [← Option.bind_eq_bind, closed?_bind _ (by rfl) (by decide)]
  exact limitsOf?_eq rfl rfl rfl

theorem op_lawful : op.Lawful := by
  intro o
  cases o <;> decide

theorem condition_lawful : condition.Lawful := by
  intro c
  simp only [condition]
  rw [closed?_bind _ (by rfl) (by decide), field_bind (text_lawful c.key) (by rfl),
    field_bind (op_lawful c.op) (by rfl), field_bind (list_lawful text_lawful c.values) (by rfl)]
  rfl

theorem idOf?_eq {r : Record} {p : PolicyId}
    (idThere : r.given.lookup "id" = some (uint64.nullable.encode p.id))
    (tagsThere : r.given.lookup "tags" = some (table.nullable.encode p.tags)) :
    idOf? r = some p.unaddressed := by
  unfold idOf?
  rw [optional_bind number_lawful idThere,
    optional_bind (nullable_lawful table_lawful rfl) tagsThere]
  rfl

theorem policyId_readsBack : policyId.ReadsBack PolicyId.unaddressed := by
  intro p
  simp only [policyId]
  rw [← Option.bind_eq_bind, closed?_bind _ (by rfl) (by decide)]
  exact idOf?_eq rfl rfl

theorem methodAt_readsBack (level : Nat) : (methodAt level).ReadsBack MethodPolicy.unaddressed := by
  intro m
  simp only [methodAt]
  rw [open?_bind _ level (by rfl) (by decide), field_bind (text_lawful m.name) (by rfl),
    idOf?_eq (p := m.id) (by rfl) (by rfl), Option.bind_eq_bind, Option.bind_some,
    field_bind (list_lawful condition_lawful m.conditions) (by rfl),
    limitsOf?_eq (l := m.limits) (by rfl) (by rfl) (by rfl)]
  rfl

theorem service_readsBack : service.ReadsBack ServicePolicy.unaddressed := by
  intro s
  simp only [service]
  rw [open?_bind _ 1 (by rfl) (by decide), field_bind (text_lawful s.name) (by rfl),
    optional_bind text_nullable_lawful (by rfl), idOf?_eq (p := s.id) (by rfl) (by rfl),
    Option.bind_eq_bind, Option.bind_some,
    limitsOf?_eq (l := s.limits) (by rfl) (by rfl) (by rfl), Option.bind_eq_bind, Option.bind_some,
    field_bind (list_readsBack (methodAt_readsBack 3) s.methods) (by rfl)]
  rfl

theorem location_lawful : location.Lawful := by
  intro l
  simp only [location]
  rw [closed?_bind _ (by rfl) (by decide), optional_bind text_nullable_lawful (by rfl),
    optional_bind text_nullable_lawful (by rfl), optional_bind number_lawful (by rfl),
    optional_bind text_nullable_lawful (by rfl), optional_bind text_nullable_lawful (by rfl),
    optional_bind number_lawful (by rfl), optional_bind text_nullable_lawful (by rfl),
    optional_bind text_nullable_lawful (by rfl), optional_bind text_nullable_lawful (by rfl),
    optional_bind text_nullable_lawful (by rfl)]
  rfl

/-! No address is written, and what is read has none. -/

theorem methodAt_unwritten (level : Nat) (m : MethodPolicy) :
    (methodAt level).encode m.unaddressed = (methodAt level).encode m := rfl

theorem idOf?_unaddressed {r : Record} {p : PolicyId} (read : idOf? r = some p) :
    p.unaddressed = p := by
  simp only [idOf?, Option.bind_eq_bind, Option.bind_eq_some_iff, Option.pure_def] at read
  obtain ⟨id, -, tags, -, same⟩ := read
  cases same
  rfl

theorem policyId_unaddressed (j : Json) (p : PolicyId) (read : policyId.decode j = some p) :
    p.unaddressed = p := by
  obtain ⟨r, -, read⟩ := Option.bind_eq_some_iff.1 read
  exact idOf?_unaddressed read

theorem methodAt_unaddressed {level : Nat} (j : Json) (m : MethodPolicy)
    (read : (methodAt level).decode j = some m) : m.unaddressed = m := by
  simp only [methodAt, Option.bind_eq_bind, Option.bind_eq_some_iff, Option.pure_def] at read
  obtain ⟨r, -, name, -, id, idRead, conditions, -, limits, -, same⟩ := read
  cases same
  rw [MethodPolicy.unaddressed, idOf?_unaddressed idRead]

theorem service_unaddressed (j : Json) (s : ServicePolicy) (read : service.decode j = some s) :
    s.unaddressed = s := by
  simp only [service, Option.bind_eq_bind, Option.bind_eq_some_iff, Option.pure_def] at read
  obtain ⟨r, -, name, -, group, -, id, idRead, limits, -, methods, methodsRead, same⟩ := read
  cases same
  have each : ∀ m ∈ methods, m.unaddressed = m :=
    Record.of_field methodsRead (List.forall_mem_nil _) (list_each methodAt_unaddressed)
  rw [ServicePolicy.unaddressed, idOf?_unaddressed idRead, List.map_congr_left each, List.map_id']

/-- Every value of the feed is read back as it was written, without the addresses of policies, and
the form that is written is canonical: with every field, and with sets and tables in order. -/
theorem feed_roundTrips :
    service.RoundTrips ServicePolicy.unaddressed serviceForm ∧
    method.RoundTrips MethodPolicy.unaddressed methodForm ∧
    policyId.RoundTrips PolicyId.unaddressed policyIdForm ∧
    defaults.RoundTrips id defaultsForm ∧
    failover.RoundTrips id failoverForm ∧
    retry.RoundTrips id retryForm ∧
    breaker.RoundTrips id breakerForm ∧
    condition.RoundTrips id conditionForm ∧
    location.RoundTrips id locationForm := by
  refine ⟨?_, ?_, ?_, ?_, ?_, ?_, ?_, ?_, ?_⟩
  · refine roundTrips_of service_writes service_readsBack (fun s => ?_) service_unaddressed
    simp only [service, ServicePolicy.unaddressed]
    rw [list_unwritten (methodAt_unwritten 3)]
    rfl
  · exact roundTrips_of (methodAt_writes 1) (methodAt_readsBack 1) (methodAt_unwritten 1)
      methodAt_unaddressed
  · exact roundTrips_of policyId_writes policyId_readsBack (fun _ => rfl) policyId_unaddressed
  · exact roundTrips_of_lawful defaults_writes defaults_lawful
  · exact roundTrips_of_lawful failover_writes failover_lawful
  · exact roundTrips_of_lawful retry_writes retry_lawful
  · exact roundTrips_of_lawful breaker_writes breaker_lawful
  · exact roundTrips_of_lawful condition_writes condition_lawful
  · exact roundTrips_of_lawful location_writes location_lawful

end Governance.Feed
