import AccessFix.Extension

/-! Several extensions side by side, known by their numbers. A session may subscribe to the disposables of any of them;
its end disposes of all its subscriptions. -/
namespace AccessFix

abbrev Extensions := List Extension

namespace Extensions

def dispose (es : Extensions) (owner : ExtensionId) (id : DisposableId) : Extensions :=
  List.modify es owner fun e => (e.dispose id).2

def subscriptionTo (self owner : ExtensionId) (id : DisposableId) : Subscription :=
  if owner = self then .own id else .other owner id

def disposeOf (es : Extensions) (self : ExtensionId) : Subscription → Extensions
  | .own id => es.dispose self id
  | .other owner id => es.dispose owner id

def subscriptions (es : Extensions) (self : ExtensionId) : List Subscription :=
  ((es[self]?.bind Extension.session).map Session.subscriptions).getD []

def shutdown (es : Extensions) (self : ExtensionId) : Extensions :=
  (es.subscriptions self).reverse.foldl
    (fun es s => match s with
      | .own _ => es
      | .other owner id => es.dispose owner id)
    (List.modify es self fun e => e.shutdown.2)

end Extensions

end AccessFix
