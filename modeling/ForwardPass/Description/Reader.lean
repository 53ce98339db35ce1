import ForwardPass.Description
import ForwardPass.Toml.Document

/-!
# Reading network descriptions

A description is a TOML table. Keys that mean nothing here are skipped. The input and each layer may
also be written as an array, with the fields in a fixed order; a layer then starts with its type and has
a name.
-/

namespace ForwardPass.Description

open Toml

def count? : Value → Option Nat
  | .integer n => if n ≥ 0 then some n.toNat else none
  | _ => none

def text? : Value → Option String
  | .text s => some s
  | _ => none

/-- A choice by name: the name alone, or a table with the name as its only key and nothing under it. -/
def choice? {β : Type} (ofName? : String → Option β) : Value → Option β
  | .text s => ofName? s
  | .table [(s, .table [])] => ofName? s
  | _ => none

/-- The field under a key, or a default if there is none. -/
def fieldOr {β : Type} (fields : List (String × Value)) (key : String) (read? : Value → Option β)
    (default : β) : Option β :=
  match lookup fields key with
  | some v => read? v
  | none => some default

/-- The field under a key. -/
def field? {β : Type} (fields : List (String × Value)) (key : String) (read? : Value → Option β) :
    Option β := (lookup fields key).bind read?

def inputKeys : List String := ["rows", "cols", "height"]

/-- The fields of each type of layer, in the order of the array form. -/
def layerKeys : String → Option (List String)
  | "conv" => some ["name", "field_size", "stride", "padding", "kernels", "activation"]
  | "fc" => some ["name", "outputs", "activation"]
  | "pool" => some ["name", "field_size", "stride", "pool"]
  | _ => none

def inputOfFields? (fields : List (String × Value)) : Option InputDescription := do
  return {
    rows := ← field? fields "rows" count?
    cols := ← field? fields "cols" count?
    height := ← fieldOr fields "height" count? 1 }

def input? : Value → Option InputDescription
  | .table fields => inputOfFields? fields
  | .array items => inputOfFields? (inputKeys.zip items)
  | _ => none

def layerOfFields? (type : String) (fields : List (String × Value)) : Option LayerDescription := do
  let name ← fieldOr fields "name" (fun v => (text? v).map some) none
  match type with
  | "conv" =>
    return .conv name
      (← field? fields "field_size" count?)
      (← fieldOr fields "stride" count? 1)
      (← fieldOr fields "padding" count? 0)
      (← field? fields "kernels" count?)
      (← fieldOr fields "activation" (choice? Activation.ofName?) .identity)
  | "fc" =>
    return .fc name
      (← field? fields "outputs" count?)
      (← fieldOr fields "activation" (choice? Activation.ofName?) .identity)
  | "pool" =>
    return .pool name
      (← field? fields "field_size" count?)
      (← fieldOr fields "stride" count? 1)
      (← fieldOr fields "pool" (choice? Pooling.ofName?) .max)
  | _ => none

def layer? : Value → Option LayerDescription
  | .table fields => do
    layerOfFields? (← field? fields "type" text?) fields
  | .array (type :: items) => do
    let type ← text? type
    let keys ← layerKeys type
    if items.isEmpty || items.length > keys.length then none
    else layerOfFields? type (keys.zip items)
  | _ => none

def layers? : Value → Option (List LayerDescription)
  | .array items => items.mapM layer?
  | _ => none

/-- The description a table holds. -/
def ofFields? (fields : List (String × Value)) : Option Description := do
  return {
    name := ← field? fields "name" text?
    images := ← fieldOr fields "num_images" count? 1
    input := ← field? fields "input" input?
    layers := ← field? fields "layers" layers? }

/-- The description a TOML document holds. -/
def parse? (text : String) : Option Description := do
  ofFields? (← Toml.parse? text)

end ForwardPass.Description
