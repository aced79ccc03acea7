/-!
# The shipped manifest

The manifest that installs MetalLB: an account, and a workload, for the
controller and for the speaker.  The namespace and the two images are left to
the configuration.
-/

namespace PoolOperator.Manifest

/-- The text of the shipped manifest. -/
def shipped : String := "apiVersion: v1
kind: ServiceAccount
metadata:
  name: controller
  namespace: \x7b\x7b.NameSpace\x7d\x7d
  labels:
    app: metallb
---
apiVersion: v1
kind: ServiceAccount
metadata:
  name: speaker
  namespace: \x7b\x7b.NameSpace\x7d\x7d
  labels:
    app: metallb
---
apiVersion: apps/v1
kind: Deployment
metadata:
  name: controller
  namespace: \x7b\x7b.NameSpace\x7d\x7d
  labels:
    app: metallb
    component: controller
spec:
  revisionHistoryLimit: 3
  selector:
    matchLabels:
      app: metallb
      component: controller
  template:
    metadata:
      labels:
        app: metallb
        component: controller
      annotations:
        prometheus.io/port: \"7472\"
        prometheus.io/scrape: \"true\"
    spec:
      serviceAccountName: controller
      terminationGracePeriodSeconds: 0
      securityContext:
        runAsNonRoot: true
        runAsUser: 65534
      nodeSelector:
        kubernetes.io/os: linux
      containers:
      - name: controller
        image: \x7b\x7b.ControllerImage\x7d\x7d
        args:
        - --port=7472
        - --config=config
        ports:
        - name: monitoring
          containerPort: 7472
        securityContext:
          allowPrivilegeEscalation: false
          readOnlyRootFilesystem: true
          capabilities:
            drop:
            - all
---
apiVersion: apps/v1
kind: DaemonSet
metadata:
  name: speaker
  namespace: \x7b\x7b.NameSpace\x7d\x7d
  labels:
    app: metallb
    component: speaker
spec:
  selector:
    matchLabels:
      app: metallb
      component: speaker
  template:
    metadata:
      labels:
        app: metallb
        component: speaker
      annotations:
        prometheus.io/port: \"7472\"
        prometheus.io/scrape: \"true\"
    spec:
      serviceAccountName: speaker
      terminationGracePeriodSeconds: 2
      hostNetwork: true
      nodeSelector:
        kubernetes.io/os: linux
      tolerations:
      - key: node-role.kubernetes.io/master
        effect: NoSchedule
        operator: Exists
      containers:
      - name: speaker
        image: \x7b\x7b.SpeakerImage\x7d\x7d
        args:
        - --port=7472
        - --config=config
        env:
        - name: METALLB_NODE_NAME
          valueFrom:
            fieldRef:
              fieldPath: spec.nodeName
        - name: METALLB_HOST
          valueFrom:
            fieldRef:
              fieldPath: status.hostIP
        - name: METALLB_ML_BIND_ADDR
          valueFrom:
            fieldRef:
              fieldPath: status.podIP
        - name: METALLB_ML_LABELS
          value: \"app=metallb,component=speaker\"
        ports:
        - name: monitoring
          containerPort: 7472
        securityContext:
          allowPrivilegeEscalation: false
          readOnlyRootFilesystem: true
          capabilities:
            add:
            - NET_RAW
            drop:
            - ALL
"

end PoolOperator.Manifest
