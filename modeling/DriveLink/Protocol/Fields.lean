import DriveLink.Protocol.Envelope

/-! # Structures as tuples

Every structure of the protocol is the tuple of its fields, in the order in which they are laid out.
What works on tuples thereby works on the structures, such as their serialized form; and the fields
have names, by which they are shown.

* `Fields` — a type with its tuple of fields. -/

namespace DriveLink

/-- A type whose values are **made of fields**, each with a name. -/
class Fields (α : Type) (τ : outParam Type) where
  /-- The names of the fields, in order. -/
  names : List String
  /-- The fields of a value. -/
  tuple : α → τ
  /-- The value with the given fields. -/
  ofTuple : τ → α

instance : Fields Header
    (Option Int64 × Option Int64 × Option Int64 × Option Int64 × Option MessageType × Option Int64
      × Option Priority × Option Bool × Option UInt32) where
  names :=
    ["cluster_version", "connection_id", "sequence", "ack_sequence", "message_type", "timeout",
      "priority", "early_exit", "batch_id"]
  tuple h := (h.clusterVersion, h.connectionId, h.sequence, h.ackSequence, h.messageType,
    h.timeout, h.priority, h.earlyExit, h.batchId)
  ofTuple := fun (clusterVersion, connectionId, sequence, ackSequence, messageType, timeout,
      priority, earlyExit, batchId) =>
    ⟨clusterVersion, connectionId, sequence, ackSequence, messageType, timeout, priority,
      earlyExit, batchId⟩

instance : Fields KeyValue
    (Option Bytes × Option Bytes × Option Bytes × Option Bool × Option Bytes × Option Algorithm ×
      Option Bool × Option Synchronization) where
  names :=
    ["key", "new_version", "db_version", "force", "tag", "algorithm", "metadata_only",
      "synchronization"]
  tuple kv := (kv.key, kv.newVersion, kv.dbVersion, kv.force, kv.tag, kv.algorithm,
    kv.metadataOnly, kv.synchronization)
  ofTuple := fun (key, newVersion, dbVersion, force, tag, algorithm, metadataOnly,
      synchronization) =>
    ⟨key, newVersion, dbVersion, force, tag, algorithm, metadataOnly, synchronization⟩

instance : Fields KeyRange (Bytes × Bytes × Bool × Bool × UInt32 × Bool × List Bytes) where
  names :=
    ["start_key", "end_key", "start_key_inclusive", "end_key_inclusive", "max_returned",
      "reverse", "keys"]
  tuple r := (r.startKey, r.endKey, r.startInclusive, r.endInclusive, r.maxReturned, r.reverse,
    r.keys)
  ofTuple := fun (startKey, endKey, startInclusive, endInclusive, maxReturned, reverse, keys) =>
    ⟨startKey, endKey, startInclusive, endInclusive, maxReturned, reverse, keys⟩

instance : Fields Setup (Option Int64 × Bool) where
  names := ["new_cluster_version", "firmware_download"]
  tuple s := (s.newClusterVersion, s.firmwareDownload)
  ofTuple := fun (newClusterVersion, firmwareDownload) => ⟨newClusterVersion, firmwareDownload⟩

instance : Fields Scope (Int64 × Bytes × List Permission × Bool) where
  names := ["offset", "value", "permissions", "tls_required"]
  tuple s := (s.offset, s.value, s.permissions, s.tlsRequired)
  ofTuple := fun (offset, value, permissions, tlsRequired) =>
    ⟨offset, value, permissions, tlsRequired⟩

instance : Fields Acl (Int64 × Bytes × HmacAlgorithm × List Scope × Option Priority) where
  names := ["identity", "key", "hmac_algorithm", "scopes", "max_priority"]
  tuple a := (a.identity, a.key, a.hmacAlgorithm, a.scopes, a.maxPriority)
  ofTuple := fun (identity, key, hmacAlgorithm, scopes, maxPriority) =>
    ⟨identity, key, hmacAlgorithm, scopes, maxPriority⟩

instance : Fields Security
    (List Acl × Option Bytes × Option Bytes × Option Bytes × Option Bytes) where
  names := ["acls", "old_lock_pin", "new_lock_pin", "old_erase_pin", "new_erase_pin"]
  tuple s := (s.acls, s.oldLockPin, s.newLockPin, s.oldErasePin, s.newErasePin)
  ofTuple := fun (acls, oldLockPin, newLockPin, oldErasePin, newErasePin) =>
    ⟨acls, oldLockPin, newLockPin, oldErasePin, newErasePin⟩

instance : Fields Utilization (String × SingleBits) where
  names := ["name", "value"]
  tuple u := (u.name, u.value)
  ofTuple := fun (name, value) => ⟨name, value⟩

instance : Fields Temperature (String × SingleBits × SingleBits × SingleBits × SingleBits) where
  names := ["name", "current", "minimum", "maximum", "target"]
  tuple t := (t.name, t.current, t.minimum, t.maximum, t.target)
  ofTuple := fun (name, current, minimum, maximum, target) =>
    ⟨name, current, minimum, maximum, target⟩

instance : Fields Capacity (UInt64 × SingleBits) where
  names := ["nominal_capacity_in_bytes", "portion_full"]
  tuple c := (c.nominalBytes, c.portionFull)
  ofTuple := fun (nominalBytes, portionFull) => ⟨nominalBytes, portionFull⟩

instance : Fields Configuration
    (String × String × Bytes × Bytes × String × String × String × String × UInt32 × UInt32) where
  names :=
    ["vendor", "model", "serial_number", "world_wide_name", "version", "compilation_date",
      "source_hash", "protocol_version", "port", "tls_port"]
  tuple c := (c.vendor, c.model, c.serialNumber, c.worldWideName, c.version, c.compilationDate,
    c.sourceHash, c.protocolVersion, c.port, c.tlsPort)
  ofTuple := fun (vendor, model, serialNumber, worldWideName, version, compilationDate,
      sourceHash, protocolVersion, port, tlsPort) =>
    ⟨vendor, model, serialNumber, worldWideName, version, compilationDate, sourceHash,
      protocolVersion, port, tlsPort⟩

instance : Fields Statistics (MessageType × UInt64 × UInt64) where
  names := ["message_type", "count", "bytes"]
  tuple s := (s.messageType, s.count, s.bytes)
  ofTuple := fun (messageType, count, bytes) => ⟨messageType, count, bytes⟩

instance : Fields Limits
    (UInt32 × UInt32 × UInt32 × UInt32 × UInt32 × UInt32 × UInt32 × UInt32 × UInt32 × UInt32 ×
      UInt32 × UInt32 × UInt32) where
  names :=
    ["max_key_size", "max_value_size", "max_version_size", "max_tag_size", "max_connections",
      "max_outstanding_read_requests", "max_outstanding_write_requests", "max_message_size",
      "max_key_range_count", "max_identity_count", "max_pin_size",
      "max_operation_count_per_batch", "max_batch_count_per_device"]
  tuple l := (l.maxKeySize, l.maxValueSize, l.maxVersionSize, l.maxTagSize, l.maxConnections,
    l.maxOutstandingReadRequests, l.maxOutstandingWriteRequests, l.maxMessageSize,
    l.maxKeyRangeCount, l.maxIdentityCount, l.maxPinSize, l.maxOperationCountPerBatch,
    l.maxBatchCountPerDevice)
  ofTuple := fun (maxKeySize, maxValueSize, maxVersionSize, maxTagSize, maxConnections,
      maxOutstandingReadRequests, maxOutstandingWriteRequests, maxMessageSize, maxKeyRangeCount,
      maxIdentityCount, maxPinSize, maxOperationCountPerBatch, maxBatchCountPerDevice) =>
    ⟨maxKeySize, maxValueSize, maxVersionSize, maxTagSize, maxConnections,
      maxOutstandingReadRequests, maxOutstandingWriteRequests, maxMessageSize, maxKeyRangeCount,
      maxIdentityCount, maxPinSize, maxOperationCountPerBatch, maxBatchCountPerDevice⟩

/-- The drive log **without the vendor's own log**, which travels beside the command. -/
instance : Fields DriveLog
    (List Utilization × List Temperature × Option Capacity × Option Configuration × List
      Statistics × Bytes × Option Limits × Option Bytes) where
  names :=
    ["utilizations", "temperatures", "capacity", "configuration", "statistics", "messages",
      "limits", "device_name"]
  tuple l := (l.utilizations, l.temperatures, l.capacity, l.configuration, l.statistics,
    l.messages, l.limits, l.deviceName)
  ofTuple := fun (utilizations, temperatures, capacity, configuration, statistics, messages,
      limits, deviceName) =>
    ⟨utilizations, temperatures, capacity, configuration, statistics, messages, limits,
      deviceName, none⟩

instance : Fields LogRequest (List LogType × DriveLog) where
  names := ["types", "log"]
  tuple r := (r.types, r.log)
  ofTuple := fun (types, log) => ⟨types, log⟩

instance : Fields StatusBlock (DriveCode × Option String × Option Bytes) where
  names := ["code", "status_message", "detailed_message"]
  tuple s := (s.code, s.message, s.detail)
  ofTuple := fun (code, message, detail) => ⟨code, message, detail⟩

instance : Fields Peer (String × UInt32 × Bool) where
  names := ["hostname", "port", "tls"]
  tuple p := (p.hostname, p.port, p.tls)
  ofTuple := fun (hostname, port, tls) => ⟨hostname, port, tls⟩

instance : Fields PushOperation
    (Bytes × Option Bytes × Option Bytes × Bool × Option StatusBlock × Option Push) where
  names := ["key", "version", "new_key", "force", "status", "nested"]
  tuple o := (o.key, o.version, o.newKey, o.force, o.status, o.nested)
  ofTuple := fun (key, version, newKey, force, status, nested) =>
    ⟨key, version, newKey, force, status, nested⟩

instance : Fields Push (Peer × List PushOperation × Option Bool) where
  names := ["peer", "operations", "all_child_operations_succeeded"]
  tuple p := (p.peer, p.operations, p.allSucceeded)
  ofTuple := fun (peer, operations, allSucceeded) => ⟨peer, operations, allSucceeded⟩

instance : Fields Batch (UInt32 × List Int64 × Option Int64) where
  names := ["count", "sequences", "failed_sequence"]
  tuple b := (b.count, b.sequences, b.failedSequence)
  ofTuple := fun (count, sequences, failedSequence) => ⟨count, sequences, failedSequence⟩

instance : Fields Command (Header × Body × Option StatusBlock) where
  names := ["header", "body", "status"]
  tuple c := (c.header, c.body, c.status)
  ofTuple := fun (header, body, status) => ⟨header, body, status⟩

instance : Fields SignedDigest (Int64 × Bytes) where
  names := ["identity", "hmac"]
  tuple s := (s.identity, s.digest)
  ofTuple := fun (identity, digest) => ⟨identity, digest⟩

instance : Fields Envelope (AuthType × Option SignedDigest × Option Bytes × Bytes) where
  names := ["auth_type", "hmac_auth", "pin_auth", "command_bytes"]
  tuple e := (e.auth, e.signed, e.pin, e.command)
  ofTuple := fun (auth, signed, pin, command) => ⟨auth, signed, pin, command⟩

end DriveLink
