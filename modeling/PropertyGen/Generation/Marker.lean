import PropertyGen.Syntax.Source

/-!
The marker: the attribute that asks for a property, and the source that declares it. The source
is published with every run, and is bound together with the sources it is used in.
-/

namespace PropertyGen.Marker

def space : String := "AutoNotify"

def name : String := "NotifiablePropertyAttribute"

def metadataName : String := space ++ "." ++ name

/-- The key under which the declaration is published. -/
def key : String := "AutoNotifyAttribute"

def path : String := key ++ ".g.cs"

def nameArgument : String := "PropertyName"

def lines : List String :=
  ["// <auto-generated/>",
   "using System;",
   "",
   "namespace AutoNotify",
   "\x7b",
   "    /// <summary>",
   "    /// Generates a property raising PropertyChanged for the annotated field.",
   "    /// </summary>",
   "    [AttributeUsage(AttributeTargets.Field, Inherited = false, AllowMultiple = false)]",
   "    sealed class NotifiablePropertyAttribute : Attribute",
   "    \x7b",
   "        public NotifiablePropertyAttribute() \x7b \x7d",
   "",
   "        /// <summary>",
   "        /// Name of the generated property. Derived from the field name when not set.",
   "        /// </summary>",
   "        public string PropertyName \x7b get; set; \x7d",
   "    \x7d",
   "\x7d"]

def text : String := String.join (lines.map (· ++ "\n"))

def token (kind : String) (start stop : Nat) : Node :=
  { kind, named := false, field? := none, start, stop, children := [] }

def leaf (kind : String) (start stop : Nat) : Node :=
  { kind, named := true, field? := none, start, stop, children := [] }

def branch (kind : String) (start stop : Nat) (children : List Node) : Node :=
  { kind, named := true, field? := none, start, stop, children }

def fieldToken (kind field : String) (start stop : Nat) : Node :=
  { kind, named := false, field? := some field, start, stop, children := [] }

def fieldLeaf (kind field : String) (start stop : Nat) : Node :=
  { kind, named := true, field? := some field, start, stop, children := [] }

def fieldBranch (kind field : String) (start stop : Nat) (children : List Node) : Node :=
  { kind, named := true, field? := some field, start, stop, children }

def root : Node :=
  branch "compilation_unit" 0 562 [
    leaf "comment" 0 20,
    branch "using_directive" 21 34 [
      token "using" 21 26,
      leaf "identifier" 27 33,
      token ";" 33 34],
    branch "namespace_declaration" 36 561 [
      token "namespace" 36 45,
      fieldLeaf "identifier" "name" 46 56,
      fieldBranch "declaration_list" "body" 57 561 [
        token "\x7b" 57 58,
        leaf "comment" 63 76,
        leaf "comment" 81 154,
        leaf "comment" 159 173,
        branch "class_declaration" 178 559 [
          branch "attribute_list" 178 260 [
            token "[" 178 179,
            branch "attribute" 179 259 [
              fieldLeaf "identifier" "name" 179 193,
              branch "attribute_argument_list" 193 259 [
                token "(" 193 194,
                branch "attribute_argument" 194 216 [
                  branch "member_access_expression" 194 216 [
                    fieldLeaf "identifier" "expression" 194 210,
                    token "." 210 211,
                    fieldLeaf "identifier" "name" 211 216]],
                token "," 216 217,
                branch "attribute_argument" 218 235 [
                  fieldLeaf "identifier" "name" 218 227,
                  token "=" 228 229,
                  branch "boolean_literal" 230 235 [token "false" 230 235]],
                token "," 235 236,
                branch "attribute_argument" 237 258 [
                  fieldLeaf "identifier" "name" 237 250,
                  token "=" 251 252,
                  branch "boolean_literal" 253 258 [token "false" 253 258]],
                token ")" 258 259]],
            token "]" 259 260],
          branch "modifier" 265 271 [token "sealed" 265 271],
          token "class" 272 277,
          fieldLeaf "identifier" "name" 278 305,
          branch "base_list" 306 317 [token ":" 306 307, leaf "identifier" 308 317],
          fieldBranch "declaration_list" "body" 322 559 [
            token "\x7b" 322 323,
            branch "constructor_declaration" 332 372 [
              branch "modifier" 332 338 [token "public" 332 338],
              fieldLeaf "identifier" "name" 339 366,
              fieldBranch "parameter_list" "parameters" 366 368 [
                token "(" 366 367,
                token ")" 367 368],
              fieldBranch "block" "body" 369 372 [token "\x7b" 369 370, token "\x7d" 371 372]],
            leaf "comment" 382 395,
            leaf "comment" 404 481,
            leaf "comment" 490 504,
            branch "property_declaration" 513 553 [
              branch "modifier" 513 519 [token "public" 513 519],
              fieldLeaf "predefined_type" "type" 520 526,
              fieldLeaf "identifier" "name" 527 539,
              fieldBranch "accessor_list" "accessors" 540 553 [
                token "\x7b" 540 541,
                branch "accessor_declaration" 542 546 [
                  fieldToken "get" "name" 542 545,
                  token ";" 545 546],
                branch "accessor_declaration" 547 551 [
                  fieldToken "set" "name" 547 550,
                  token ";" 550 551],
                token "\x7d" 552 553]],
            token "\x7d" 558 559]],
        token "\x7d" 560 561]]]

def source : Source := { path, bytes := Text.Utf8.encode text, root }

end PropertyGen.Marker
