/-! Scalar types: the built-in ones and the library types that are documented as scalars. -/

namespace ApiSchema

inductive Primitive where
  | string
  | char
  | i8
  | i16
  | i32
  | i64
  | i128
  | isize
  | u8
  | u16
  | u32
  | u64
  | u128
  | usize
  | f32
  | f64
  | bool
  | dateTime
  | date
  | uuid
  | url
  | decimal
deriving DecidableEq, Repr

namespace Primitive

def all : List Primitive :=
  [string, char, i8, i16, i32, i64, i128, isize, u8, u16, u32, u64, u128, usize, f32, f64, bool,
    dateTime, date, uuid, url, decimal]

def name : Primitive → String
  | string => "String"
  | char => "char"
  | i8 => "i8"
  | i16 => "i16"
  | i32 => "i32"
  | i64 => "i64"
  | i128 => "i128"
  | isize => "isize"
  | u8 => "u8"
  | u16 => "u16"
  | u32 => "u32"
  | u64 => "u64"
  | u128 => "u128"
  | usize => "usize"
  | f32 => "f32"
  | f64 => "f64"
  | bool => "bool"
  | dateTime => "DateTime"
  | date => "NaiveDate"
  | uuid => "Uuid"
  | url => "Url"
  | decimal => "Decimal"

/-- A built-in type needs no declaration and no import. -/
def isBuiltin : Primitive → Bool
  | dateTime | date | uuid | url | decimal => false
  | _ => true

/-- The built-in type of a name. -/
def ofName? (name : String) : Option Primitive :=
  match name with
  | "String" | "str" => some string
  | "char" => some char
  | "i8" => some i8
  | "i16" => some i16
  | "i32" => some i32
  | "i64" => some i64
  | "i128" => some i128
  | "isize" => some isize
  | "u8" => some u8
  | "u16" => some u16
  | "u32" => some u32
  | "u64" => some u64
  | "u128" => some u128
  | "usize" => some usize
  | "f32" => some f32
  | "f64" => some f64
  | "bool" => some bool
  | _ => none

theorem ofName?_name (p : Primitive) : ofName? p.name = if p.isBuiltin then some p else none := by
  cases p <;> rfl

end Primitive

end ApiSchema
