import Stepwise.Text.Basic

/-!
# Kinds and roles of syntax nodes

A node of a C++ syntax tree has a kind, which is the name of a grammar rule or the text of a token,
and a role, which is the name under which its parent holds it.  The kinds and roles that the
analysis distinguishes have constructors of their own; every other one keeps its name.

Main definitions: `Kind.ofName` and `Kind.name`, and `Role.ofName`.
-/

namespace Stepwise.Syntax

/-- The kind of a node. -/
inductive Kind where
  | functionDefinition
  | functionDeclarator
  | initDeclarator
  | pointerDeclarator
  | referenceDeclarator
  | arrayDeclarator
  | parenthesizedDeclarator
  | attributedDeclarator
  | identifier
  | fieldIdentifier
  | typeIdentifier
  | parameterDeclaration
  | optionalParameterDeclaration
  | variadicParameterDeclaration
  | compoundStatement
  | expressionStatement
  | declaration
  | returnStatement
  | ifStatement
  | elseClause
  | forStatement
  | forRangeLoop
  | whileStatement
  | doStatement
  | switchStatement
  | caseStatement
  | breakStatement
  | continueStatement
  | tryStatement
  | catchClause
  | labeledStatement
  | assignmentExpression
  | commaExpression
  | structSpecifier
  | classSpecifier
  | fieldDeclarationList
  | fieldDeclaration
  | accessSpecifier
  | storageClassSpecifier
  | typeDefinition
  | templateDeclaration
  | namespaceDefinition
  | colon
  | semicolon
  | openBrace
  | closeBrace
  | closeParen
  /-- Any other rule or token, by its name. -/
  | other (name : Text)
  deriving DecidableEq, Repr

namespace Kind

/-- The kinds with a constructor of their own, with their names. -/
def table : List (Text × Kind) :=
  List.map (fun (spelling, kind) => (String.toList spelling, kind)) [
   ("function_definition", functionDefinition),
   ("function_declarator", functionDeclarator),
   ("init_declarator", initDeclarator),
   ("pointer_declarator", pointerDeclarator),
   ("reference_declarator", referenceDeclarator),
   ("array_declarator", arrayDeclarator),
   ("parenthesized_declarator", parenthesizedDeclarator),
   ("attributed_declarator", attributedDeclarator),
   ("identifier", identifier),
   ("field_identifier", fieldIdentifier),
   ("type_identifier", typeIdentifier),
   ("parameter_declaration", parameterDeclaration),
   ("optional_parameter_declaration", optionalParameterDeclaration),
   ("variadic_parameter_declaration", variadicParameterDeclaration),
   ("compound_statement", compoundStatement),
   ("expression_statement", expressionStatement),
   ("declaration", declaration),
   ("return_statement", returnStatement),
   ("if_statement", ifStatement),
   ("else_clause", elseClause),
   ("for_statement", forStatement),
   ("for_range_loop", forRangeLoop),
   ("while_statement", whileStatement),
   ("do_statement", doStatement),
   ("switch_statement", switchStatement),
   ("case_statement", caseStatement),
   ("break_statement", breakStatement),
   ("continue_statement", continueStatement),
   ("try_statement", tryStatement),
   ("catch_clause", catchClause),
   ("labeled_statement", labeledStatement),
   ("assignment_expression", assignmentExpression),
   ("comma_expression", commaExpression),
   ("struct_specifier", structSpecifier),
   ("class_specifier", classSpecifier),
   ("field_declaration_list", fieldDeclarationList),
   ("field_declaration", fieldDeclaration),
   ("access_specifier", accessSpecifier),
   ("storage_class_specifier", storageClassSpecifier),
   ("type_definition", typeDefinition),
   ("template_declaration", templateDeclaration),
   ("namespace_definition", namespaceDefinition),
   (":", colon),
   (";", semicolon),
   ("\x7b", openBrace),
   ("\x7d", closeBrace),
   (")", closeParen)]

/-- The kind of a name. -/
def ofName (name : Text) : Kind := (table.lookup name).getD (other name)

/-- The name of a kind. -/
def name : Kind → Text
  | other name => name
  | kind => ((table.find? (·.2 = kind)).map Prod.fst).getD []

/-- Whether the name of the kind ends in `declarator`. -/
def isDeclarator (kind : Kind) : Bool := (Text.before? "declarator" kind.name).isSome

end Kind

/-- The name under which a parent holds a child. -/
inductive Role where
  /-- The child is held under no name. -/
  | none
  | body
  | declarator
  | parameters
  | consequence
  | alternative
  | initializer
  | update
  | left
  | name
  | type
  /-- Any other name. -/
  | other (name : Text)
  deriving DecidableEq, Repr

namespace Role

/-- The roles with a constructor of their own, with their names. -/
def table : List (Text × Role) :=
  List.map (fun (spelling, role) => (String.toList spelling, role)) [
   ("", none), ("body", body), ("declarator", declarator), ("parameters", parameters),
   ("consequence", consequence), ("alternative", alternative), ("initializer", initializer),
   ("update", update), ("left", left), ("name", name), ("type", type)]

/-- The role of a name. -/
def ofName (text : Text) : Role := (table.lookup text).getD (other text)

end Role

end Stepwise.Syntax
