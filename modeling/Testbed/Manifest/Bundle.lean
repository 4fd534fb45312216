import Testbed.Manifest

/-!
The manifests that come with the program.
-/

namespace Testbed.Bundle

/-- The type of running instances. -/
def instanceDefinition : String :=
  "\n".intercalate [
    "apiVersion: apiextensions.k8s.io/v1",
    "kind: CustomResourceDefinition",
    "metadata:",
    "  name: instances.yaks.citrusframework.org",
    "  labels:",
    "    app: yaks",
    "spec:",
    "  group: yaks.citrusframework.org",
    "  scope: Namespaced",
    "  names:",
    "    kind: Instance",
    "    listKind: InstanceList",
    "    plural: instances",
    "    singular: instance",
    "  versions:",
    "  - name: v1alpha1",
    "    served: true",
    "    storage: true",
    "    subresources:",
    "      status: \x7b\x7d",
    "    schema:",
    "      openAPIV3Schema:",
    "        type: object",
    "        x-kubernetes-preserve-unknown-fields: true",
    ""]

/-- The type of tests. -/
def testDefinition : String :=
  "\n".intercalate [
    "apiVersion: apiextensions.k8s.io/v1",
    "kind: CustomResourceDefinition",
    "metadata:",
    "  name: tests.yaks.citrusframework.org",
    "  labels:",
    "    app: yaks",
    "spec:",
    "  group: yaks.citrusframework.org",
    "  scope: Namespaced",
    "  names:",
    "    kind: Test",
    "    listKind: TestList",
    "    plural: tests",
    "    singular: test",
    "  versions:",
    "  - name: v1alpha1",
    "    served: true",
    "    storage: true",
    "    subresources:",
    "      status: \x7b\x7d",
    "    additionalPrinterColumns:",
    "    - name: Phase",
    "      type: string",
    "      description: The test phase",
    "      jsonPath: .status.phase",
    "    schema:",
    "      openAPIV3Schema:",
    "        type: object",
    "        x-kubernetes-preserve-unknown-fields: true",
    ""]

/-- What users may do with tests and instances. -/
def userClusterRole : String :=
  "\n".intercalate [
    "apiVersion: rbac.authorization.k8s.io/v1",
    "kind: ClusterRole",
    "metadata:",
    "  name: yaks:edit",
    "  labels:",
    "    app: yaks",
    "    rbac.authorization.k8s.io/aggregate-to-admin: \"true\"",
    "    rbac.authorization.k8s.io/aggregate-to-edit: \"true\"",
    "rules:",
    "- apiGroups:",
    "  - yaks.citrusframework.org",
    "  resources:",
    "  - tests",
    "  - instances",
    "  verbs:",
    "  - create",
    "  - delete",
    "  - deletecollection",
    "  - get",
    "  - list",
    "  - patch",
    "  - update",
    "  - watch",
    "- apiGroups:",
    "  - yaks.citrusframework.org",
    "  resources:",
    "  - tests/status",
    "  verbs:",
    "  - get",
    ""]

/-- What the operator may do in a namespace of tests. -/
def operatorRole : String :=
  "\n".intercalate [
    "apiVersion: rbac.authorization.k8s.io/v1",
    "kind: Role",
    "metadata:",
    "  name: yaks",
    "  labels:",
    "    app: yaks",
    "rules:",
    "- apiGroups:",
    "  - \"\"",
    "  resources:",
    "  - pods",
    "  - services",
    "  - endpoints",
    "  - persistentvolumeclaims",
    "  - configmaps",
    "  - secrets",
    "  - serviceaccounts",
    "  verbs:",
    "  - create",
    "  - delete",
    "  - deletecollection",
    "  - get",
    "  - list",
    "  - patch",
    "  - update",
    "  - watch",
    "- apiGroups:",
    "  - \"\"",
    "  resources:",
    "  - pods/log",
    "  - pods/status",
    "  verbs:",
    "  - get",
    "  - list",
    "  - watch",
    "- apiGroups:",
    "  - rbac.authorization.k8s.io",
    "  resources:",
    "  - roles",
    "  - rolebindings",
    "  verbs:",
    "  - create",
    "  - delete",
    "  - deletecollection",
    "  - get",
    "  - list",
    "  - patch",
    "  - update",
    "  - watch",
    "- apiGroups:",
    "  - \"\"",
    "  resources:",
    "  - events",
    "  verbs:",
    "  - get",
    "  - list",
    "  - watch",
    "- apiGroups:",
    "  - apps",
    "  resources:",
    "  - deployments",
    "  - replicasets",
    "  - statefulsets",
    "  verbs:",
    "  - create",
    "  - delete",
    "  - deletecollection",
    "  - get",
    "  - list",
    "  - patch",
    "  - update",
    "  - watch",
    "- apiGroups:",
    "  - monitoring.coreos.com",
    "  resources:",
    "  - servicemonitors",
    "  verbs:",
    "  - get",
    "  - create",
    "- apiGroups:",
    "  - yaks.citrusframework.org",
    "  resources:",
    "  - '*'",
    "  verbs:",
    "  - '*'",
    ""]

/-- Who is the operator in a namespace of tests. -/
def operatorRoleBinding : String :=
  "\n".intercalate [
    "apiVersion: rbac.authorization.k8s.io/v1",
    "kind: RoleBinding",
    "metadata:",
    "  name: yaks",
    "  labels:",
    "    app: yaks",
    "subjects:",
    "- kind: ServiceAccount",
    "  name: yaks",
    "roleRef:",
    "  apiGroup: rbac.authorization.k8s.io",
    "  kind: Role",
    "  name: yaks",
    ""]

/-- The bundled manifests by name. -/
def files : List (String × String) :=
  [("crd-instance.yaml", instanceDefinition), ("crd-test.yaml", testDefinition),
   ("user-cluster-role.yaml", userClusterRole), ("role.yaml", operatorRole),
   ("role-binding.yaml", operatorRoleBinding)]

def load (name : String) : Except Refusal Manifest :=
  match files.lookup name with
  | some text => Manifest.ofText text
  | none => .error (.noSuchBundle name)

end Testbed.Bundle
