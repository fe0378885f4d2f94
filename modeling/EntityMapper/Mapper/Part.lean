import EntityMapper.Mapper.ToRecord

/-!
# Parts of a mapper class

A mapper class is written part by part: the constants of its converters, the method that reads
records, the method that writes them. A part writes into a buffer of its own; the ones that wrote
something are joined by empty lines.
-/
namespace EntityMapper

open Source (Buffer Piece)

structure MapperPart where
  name : String
  layout : MapperContext → Table → List Piece

namespace MapperPart

/-- The constant of one converter. A generic converter takes the boxed types it converts between,
as type arguments and as class literals. -/
def converterField (context : MapperContext) (table : Table) (converter : Converter) :
    Java.FieldMember :=
  let name := context.converterConstant table converter
  if converter.generic then
    let source := Java.TypeRef.named (Java.boxed converter.fromType)
    let target := Java.TypeRef.named (Java.boxed converter.toType)
    let type := Java.TypeRef.parse converter.converterType [source, target]
    .constant type name (.new type [.classLiteral source, .classLiteral target])
  else
    let type := Java.TypeRef.named converter.converterType
    .constant type name (.new type [])

/-- Writes nothing for a table whose mapping is disabled. -/
def whenMapped (name : String) (layout : MapperContext → Table → List Piece) : MapperPart where
  name := name
  layout context table := if table.mappingEnabled then layout context table else []

def converters : MapperPart :=
  whenMapped "converters" fun context table =>
    table.converters.flatMap fun converter => (converterField context table converter).layout

def toEntity : MapperPart :=
  whenMapped "to_entity" fun context table => (ToEntity.method context table).layout

def toRecord : MapperPart :=
  whenMapped "to_record" fun context table => (ToRecord.method context table).layout

/-- The parts of a mapper class unless others are asked for. -/
def standard : List MapperPart :=
  [converters, toEntity, toRecord]

/-- Writes the parts that have something to write; `wrote` tells whether one has written yet. -/
def writeFrom (context : MapperContext) (table : Table) (wrote : Bool) :
    List MapperPart → Buffer → Buffer
  | [], buffer => buffer
  | part :: rest, buffer =>
    let own := buffer.fork.writeAll (part.layout context table)
    if own.isEmpty then writeFrom context table wrote rest buffer
    else
      writeFrom context table true rest
        ((if wrote then buffer.write .blankLine else buffer).write (.splice own.text))

def writeAll (context : MapperContext) (table : Table) (parts : List MapperPart)
    (buffer : Buffer) : Buffer :=
  writeFrom context table false parts buffer

end MapperPart

end EntityMapper
