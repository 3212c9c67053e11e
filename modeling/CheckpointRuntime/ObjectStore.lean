import CheckpointRuntime.RunModels
import CheckpointRuntime.Library.KeyedTable
import CheckpointRuntime.Library.CallProgram
import Mathlib.Data.String.Basic

/-!
# The object store and its client

The bucket is a map from keys to objects together with the multipart uploads
that are still open.  `Bucket.effect` is what one S3 call does when it goes
through; `bucketService` adds the ways in which a call may go wrong: it is
refused without an effect, or its effect takes place and only the reply is
lost.  The client functions are those of `storage/s3.rs`, as programs over
these calls.
-/

namespace CheckpointRuntime

open KeyedTable CallProgram

/-- One shard entry of a manifest. -/
structure ManifestShard where
  shardId : String
  rank : Nat
  sizeBytes : Nat
  sha256 : String
  storageKey : String
deriving DecidableEq, Repr

/-- The manifest of a committed checkpoint. -/
structure Manifest where
  checkpointId : String
  runId : String
  step : Nat
  createdAt : Nat
  numShards : Nat
  totalBytes : Nat
  shards : List ManifestShard
  metadata : List (String × String)
deriving DecidableEq, Repr

/-- The content of an object: shard bytes, a text, or the JSON of a manifest. -/
inductive ObjectBody
  | bytes (data : Bytes)
  | text (content : String)
  | manifest (content : Manifest)
deriving DecidableEq, Repr

structure S3Object where
  key : String
  body : ObjectBody
deriving DecidableEq, Repr

/-- The numbered parts of an open multipart upload. -/
abbrev Parts := List (Nat × Bytes)

/-- A bucket: its objects, listed in key order, and its open multipart
uploads by key and upload id. -/
structure Bucket where
  objects : Table S3Object (fun object => object.key)
  uploads : String → Nat → Option Parts
  nextUpload : Nat

namespace Bucket

/-- A bucket without objects and without open uploads. -/
def empty : Bucket where
  objects := .empty
  uploads := fun _ _ => none
  nextUpload := 0

/-- The content of the object at a key. -/
def get? (b : Bucket) (key : String) : Option ObjectBody :=
  (b.objects.find key).map (·.body)

def store (b : Bucket) (key : String) (body : ObjectBody) : Bucket :=
  { b with objects := b.objects.put .byKey { key := key, body := body } }

def remove (b : Bucket) (key : String) : Bucket :=
  { b with objects := b.objects.erase key }

def setUpload (b : Bucket) (key : String) (uploadId : Nat) (parts : Option Parts) : Bucket :=
  { b with
    uploads := fun k u => if k = key ∧ u = uploadId then parts else b.uploads k u }

/-- The keys with a given prefix, in key order. -/
def keysWithPrefix (b : Bucket) (keyStart : String) : List String :=
  (b.objects.rows.map (·.key)).filter (fun key => keyStart.toList.isPrefixOf key.toList)

@[simp] theorem get?_empty (key : String) : empty.get? key = none := rfl

@[simp] theorem get?_store (b : Bucket) (key : String) (body : ObjectBody) (k : String) :
    (b.store key body).get? k = if k = key then some body else b.get? k := by
  by_cases h : k = key <;> simp [get?, store, Table.find_put, h]

@[simp] theorem get?_remove (b : Bucket) (key k : String) :
    (b.remove key).get? k = if k = key then none else b.get? k := by
  by_cases h : k = key <;> simp [get?, remove, Table.find_erase, h]

@[simp] theorem get?_setUpload (b : Bucket) (key : String) (uploadId : Nat)
    (parts : Option Parts) (k : String) :
    (b.setUpload key uploadId parts).get? k = b.get? k := rfl

@[simp] theorem uploads_store (b : Bucket) (key : String) (body : ObjectBody) :
    (b.store key body).uploads = b.uploads := rfl

@[simp] theorem uploads_remove (b : Bucket) (key : String) :
    (b.remove key).uploads = b.uploads := rfl

@[simp] theorem uploads_setUpload (b : Bucket) (key : String) (uploadId : Nat)
    (parts : Option Parts) (k : String) (u : Nat) :
    (b.setUpload key uploadId parts).uploads k u =
      if k = key ∧ u = uploadId then parts else b.uploads k u := rfl

end Bucket

/-! ## S3 calls -/

/-- The calls of `aws_sdk_s3` that the data plane makes.  The pages of one
`list_objects_v2` loop count as one call. -/
inductive S3Call
  | headObject (key : String)
  | getObject (key : String)
  | putObject (key : String) (body : ObjectBody)
  | copyObject (sourceKey destinationKey : String)
  | deleteObject (key : String)
  | listObjects (keyStart : String)
  | createMultipartUpload (key : String)
  | uploadPart (key : String) (uploadId partNumber : Nat) (data : Bytes)
  | completeMultipartUpload (key : String) (uploadId : Nat) (partNumbers : List Nat)
  | abortMultipartUpload (key : String) (uploadId : Nat)

/-- What a successful call returns. -/
def S3Call.Result : S3Call → Type
  | .getObject _ => ObjectBody
  | .listObjects _ => List String
  | .createMultipartUpload _ => Nat
  | .uploadPart _ _ _ _ => Nat
  | _ => Unit

/-- The kinds of error that the SDK distinguishes. -/
inductive S3Error
  | service
  | dispatch
  | timeout
deriving DecidableEq, Repr

/-- How the SDK prints an error. -/
def S3Error.message : S3Error → String
  | .service => "service error"
  | .dispatch => "dispatch failure"
  | .timeout => "request has timed out"

abbrev S3Call.Reply (op : S3Call) : Type := Except S3Error op.Result

/-- What may go wrong with a call: nothing, it is refused without effect, or
its effect takes place and the reply is lost. -/
inductive Fault
  | none
  | refused
  | lost
deriving DecidableEq, Repr

/-- Add or replace one part. -/
def putPart (partNumber : Nat) (data : Bytes) (parts : Parts) : Parts :=
  parts.filter (fun part => decide (part.1 ≠ partNumber)) ++ [(partNumber, data)]

/-- The bytes of the parts with the given numbers, which must be increasing
and present. -/
def assemble (partNumbers : List Nat) (parts : Parts) : Option Bytes :=
  if partNumbers.Pairwise (· < ·) then
    (partNumbers.mapM fun n => parts.lookup n).map List.flatten
  else
    none

/-- The effect and the result of a call that goes through. -/
def Bucket.effect (b : Bucket) : (op : S3Call) → Except S3Error (Bucket × op.Result)
  | .headObject key =>
      match b.get? key with
      | some _ => .ok (b, ())
      | none => .error .service
  | .getObject key =>
      match b.get? key with
      | some body => .ok (b, body)
      | none => .error .service
  | .putObject key body => .ok (b.store key body, ())
  | .copyObject sourceKey destinationKey =>
      match b.get? sourceKey with
      | some body => .ok (b.store destinationKey body, ())
      | none => .error .service
  | .deleteObject key => .ok (b.remove key, ())
  | .listObjects keyStart => .ok (b, b.keysWithPrefix keyStart)
  | .createMultipartUpload key =>
      .ok ({ b.setUpload key b.nextUpload (some []) with nextUpload := b.nextUpload + 1 },
        b.nextUpload)
  | .uploadPart key uploadId partNumber data =>
      match b.uploads key uploadId with
      | some parts =>
          .ok (b.setUpload key uploadId (some (putPart partNumber data parts)), partNumber)
      | none => .error .service
  | .completeMultipartUpload key uploadId partNumbers =>
      match (b.uploads key uploadId).bind (assemble partNumbers) with
      | some data => .ok ((b.setUpload key uploadId none).store key (.bytes data), ())
      | none => .error .service
  | .abortMultipartUpload key uploadId =>
      match b.uploads key uploadId with
      | some _ => .ok (b.setUpload key uploadId none, ())
      | none => .error .service

/-- The bucket as a service whose calls may fail. -/
def bucketService : Service S3Call S3Call.Reply Bucket Fault where
  answer := fun fault b op =>
    match fault, b.effect op with
    | .none, .ok (b', result) => (b', .ok result)
    | .none, .error e => (b, .error e)
    | .refused, _ => (b, .error .dispatch)
    | .lost, .ok (b', _) => (b', .error .timeout)
    | .lost, .error _ => (b, .error .timeout)

/-- An answer is an error that changed nothing, or it carries the effect of
the call. -/
theorem bucketService_cases (fault : Fault) (b : Bucket) (op : S3Call) :
    (∃ e, bucketService.answer fault b op = (b, .error e)) ∨
    ∃ b' result, b.effect op = .ok (b', result) ∧
      (bucketService.answer fault b op = (b', .ok result) ∨
        ∃ e, bucketService.answer fault b op = (b', .error e)) := by
  cases heffect : b.effect op with
  | error e => cases fault <;> simp [bucketService, heffect]
  | ok out =>
      obtain ⟨b', result⟩ := out
      cases fault <;> simp [bucketService, heffect]

/-- A call that does not go wrong has its effect or its error. -/
theorem bucketService_none (b : Bucket) (op : S3Call) :
    bucketService.answer .none b op =
      match b.effect op with
      | .ok (b', result) => (b', .ok result)
      | .error e => (b, .error e) := by
  cases heffect : b.effect op with
  | error e => simp [bucketService, heffect]
  | ok out => simp [bucketService, heffect]

/-- A probe sees an object, unless its own call goes wrong. -/
theorem answer_headObject (fault : Fault) (b : Bucket) (key : String) :
    (b.get? key ≠ none ∧ fault = .none ∧
      bucketService.answer fault b (.headObject key) = (b, .ok ())) ∨
    (¬ (b.get? key ≠ none ∧ fault = .none) ∧
      ∃ e, bucketService.answer fault b (.headObject key) = (b, .error e)) := by
  cases hget : b.get? key with
  | none => cases fault <;> simp [bucketService, Bucket.effect, hget]
  | some body => cases fault <;> simp [bucketService, Bucket.effect, hget]

/-! ## The client -/

abbrev S3Program := Program S3Call S3Call.Reply

/-- An `async` function of the data plane: a program whose value may be an
error text. -/
abbrev S3Client := ExceptT String S3Program

namespace S3Client

/-- Await one call; its error is the error of the function. -/
def await (op : S3Call) : S3Client op.Result :=
  ExceptT.mk ((Program.perform op).bind fun reply =>
    .done (reply.mapError S3Error.message))

/-- Run a function and drop its outcome, as `let _ = f().await` does. -/
def ignoring {α : Type} (x : S3Client α) : S3Client Unit :=
  ExceptT.mk (x.run.bind fun _ => .done (.ok ()))

def putObject (key : String) (body : ObjectBody) : S3Client Unit :=
  await (.putObject key body)

def createMultipartUpload (key : String) : S3Client Nat :=
  await (.createMultipartUpload key)

def uploadPart (key : String) (uploadId partNumber : Nat) (data : Bytes) : S3Client Nat :=
  await (.uploadPart key uploadId partNumber data)

def completeMultipartUpload (key : String) (uploadId : Nat) (parts : List Nat) :
    S3Client Unit :=
  await (.completeMultipartUpload key uploadId parts)

def abortMultipartUpload (key : String) (uploadId : Nat) : S3Client Unit :=
  await (.abortMultipartUpload key uploadId)

def copyObject (sourceKey destinationKey : String) : S3Client Unit :=
  await (.copyObject sourceKey destinationKey)

def getObject (key : String) : S3Client ObjectBody :=
  await (.getObject key)

def deleteObject (key : String) : S3Client Unit :=
  await (.deleteObject key)

/-- Every error of the probe counts as absence. -/
def objectExists (key : String) : S3Client Bool :=
  ExceptT.mk ((Program.perform (.headObject key)).bind fun reply =>
    match reply with
    | .ok _ => .done (.ok true)
    | .error _ => .done (.ok false))

def listObjects (keyStart : String) : S3Client (List String) :=
  await (.listObjects keyStart)

end S3Client

end CheckpointRuntime
